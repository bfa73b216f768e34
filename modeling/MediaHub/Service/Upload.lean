import MediaHub.Catalog.Cursor
import MediaHub.Core.OffsetTime
import MediaHub.Domain.Metadata
import MediaHub.Domain.Media
import MediaHub.Domain.UploadSession
import MediaHub.Store.Media

/-!
Ordinary uploads and upload sessions: when the new media expires, and what is written first.

A function that may panic gives no result where it does.
-/

namespace MediaHub.Service

open Relational
open MediaHub.Core
open MediaHub.Http (Text)
open MediaHub.Store (Database RepositoryError)

def mediaUploadLeaseSeconds : Int := 120

/-- The errors of the parts that are modelled here. -/
inductive ApplicationError where
  | bucketNotFound
  | bucketDoesNotBelongToApplication
  | objectAlreadyExists
  | quotaExceeded
  | domain (error : Domain.DomainError)
  | repository (error : RepositoryError)
  | objectStore (message : String)

def domain {α : Type} (value : Domain.DomainResult α) : Except ApplicationError α :=
  value.mapError ApplicationError.domain

def repository {α : Type} (value : Except RepositoryError α) : Except ApplicationError α :=
  value.mapError ApplicationError.repository

structure UploadMediaRequest where
  applicationId : ApplicationId
  bucketId : BucketId
  objectKey : Text
  originalName : Option Text
  displayName : Text
  extension : Option Text
  mime : Text
  content : List UInt8
  visibilityOverride : Option Domain.Visibility
  expireAt : Option OffsetDateTime
  metadata : Domain.ClientMetadata

inductive UploadCall where
  | findBucket
  | findByObjectKey
  | reserveQuota
  | releaseQuota
  | createUploading
deriving DecidableEq

/-- What an upload finds outside: the buckets, the calls that do not get through, the ids and the
clock it takes, the backend and the digests. -/
structure UploadEnvironment where
  findBucket : BucketId → Option Domain.Bucket
  outage : UploadCall → Option RepositoryError
  mediaId : MediaId
  leaseToken : Text
  now : OffsetDateTime
  backendName : Text
  sha256 : List UInt8 → Text

/-- The columns of a media that its row in the store keeps. -/
def mediaRow (media : Domain.Media) : Media where
  id := media.id
  applicationId := media.applicationId
  bucketId := media.bucketId
  objectKey := String.ofList media.objectKey
  storageKey := String.ofList media.storageKey
  state := media.state
  size := media.size
  uploadTemporaryKey := none
  uploadLeaseToken := none
  uploadLeasedUntil := none
  revision := media.revision
  deletedAt := media.deletedAt
  updatedAt := media.updatedAt

def mediaIdText (mediaId : MediaId) : Text := Catalog.hyphenate (Catalog.simpleText mediaId)

/-- `expire_at.or_else(..)`: the default of the bucket, if it fits an `i64`. -/
def mediaExpiry (expireAt : Option OffsetDateTime) (policy : Domain.BucketPolicy)
    (now : OffsetDateTime) : Option (Option OffsetDateTime) :=
  match expireAt with
  | some expireAt => some (some expireAt)
  | none =>
      match policy.defaultTtlSeconds with
      | none => some none
      | some seconds =>
          if maxI64 < seconds then some none else (now.checkedAdd seconds).map some

namespace UploadEnvironment

variable (env : UploadEnvironment)

/-- A call to the repository. -/
def call {α : Type} (call : UploadCall) (reply : Except RepositoryError α) :
    Except RepositoryError α :=
  match env.outage call with
  | some e => .error e
  | none => reply

def findByObjectKey (db : Database) (applicationId : ApplicationId) (bucketId : BucketId)
    (objectKey : Text) : Option Media :=
  db.media.rows.find? fun media => media.applicationId = applicationId &&
    media.bucketId = bucketId && media.objectKey = String.ofList objectKey

def ownedBucket (applicationId : ApplicationId) (bucketId : BucketId) :
    Except ApplicationError Domain.Bucket := do
  let row ← repository (env.call .findBucket (.ok (env.findBucket bucketId)))
  match row with
  | none => .error .bucketNotFound
  | some bucket =>
      if bucket.applicationId ≠ applicationId then .error .bucketDoesNotBelongToApplication
      else .ok bucket

/-- The checks before an upload reserves its bytes. -/
def accept (request : UploadMediaRequest) (db : Database) :
    Except ApplicationError Domain.Bucket := do
  let bucket ← env.ownedBucket request.applicationId request.bucketId
  if maxU64 < request.content.length then .error (.domain (.objectTooLarge maxU64 maxU64))
  domain (bucket.validateUpload request.mime request.content.length)
  let existing ← repository (env.call .findByObjectKey (.ok (findByObjectKey db
    request.applicationId request.bucketId request.objectKey)))
  if existing.isSome then .error .objectAlreadyExists
  return bucket

def reserve (request : UploadMediaRequest) (db : Database) : Except RepositoryError Database :=
  env.call .reserveQuota <|
    ((Store.reserveQuota request.applicationId request.content.length).run db).map Prod.snd

/-- `let _ = release_quota(..)` -/
def release (request : UploadMediaRequest) (db : Database) : Database :=
  match env.outage .releaseQuota with
  | some _ => db
  | none => (Store.releaseQuota request.applicationId request.content.length).commit db

def newMedia (request : UploadMediaRequest) (systemMetadata : Domain.SystemMetadata)
    (expireAt : Option OffsetDateTime) : Domain.NewMedia where
  id := env.mediaId
  applicationId := request.applicationId
  bucketId := request.bucketId
  objectKey := request.objectKey
  originalName := request.originalName
  displayName := request.displayName
  extension := request.extension
  storageBackend := env.backendName
  storageKey := "objects/".toList ++ mediaIdText env.mediaId
  visibilityOverride := request.visibilityOverride
  expireAt := expireAt.map OffsetDateTime.instant
  systemMetadata
  clientMetadata := request.metadata

def buildUploadingMedia (request : UploadMediaRequest) (expireAt : Option OffsetDateTime) :
    Except ApplicationError Domain.Media :=
  domain do
    let systemMetadata ← Domain.SystemMetadata.new request.mime request.content.length
      none none none (env.sha256 request.content)
    Domain.Media.new (env.newMedia request systemMetadata expireAt) env.now.instant

def create (media : Domain.Media) (leasedUntil : OffsetDateTime) (db : Database) :
    Except RepositoryError Database :=
  env.call .createUploading <|
    ((Store.createUploading (mediaRow media)
      (String.ofList ("temporary/".toList ++ mediaIdText env.mediaId))
      (String.ofList env.leaseToken) leasedUntil.instant).run db).map Prod.snd

end UploadEnvironment

def mapQuotaError : RepositoryError → ApplicationError
  | .quotaExceeded => .quotaExceeded
  | other => .repository other

def mapCreateError : RepositoryError → ApplicationError
  | .conflict => .objectAlreadyExists
  | other => .repository other

/-- `upload`, until the row of the media is there and its bytes are sent to the store. -/
def upload (env : UploadEnvironment) (request : UploadMediaRequest) (db : Database) :
    Option (Except ApplicationError Domain.Media) × Database :=
  match env.accept request db with
  | .error e => (some (.error e), db)
  | .ok bucket =>
      match env.reserve request db with
      | .error e => (some (.error (mapQuotaError e)), db)
      | .ok reserved =>
          match mediaExpiry request.expireAt bucket.policy env.now with
          | none => (none, reserved)
          | some expireAt =>
              match env.buildUploadingMedia request expireAt with
              | .error e => (some (.error e), env.release request reserved)
              | .ok media =>
                  match env.now.checkedAdd mediaUploadLeaseSeconds with
                  | none => (none, reserved)
                  | some leasedUntil =>
                      match env.create media leasedUntil reserved with
                      | .error e =>
                          (some (.error (mapCreateError e)), env.release request reserved)
                      | .ok created => (some (.ok media), created)

structure CreateUploadSessionRequest where
  applicationId : ApplicationId
  bucketId : BucketId
  objectKey : Text
  originalName : Option Text
  displayName : Text
  extension : Option Text
  expectedSize : Nat
  expectedMime : Text
  visibilityOverride : Option Domain.Visibility
  mediaExpiresAt : Option OffsetDateTime
  metadata : Domain.ClientMetadata

structure PreparedUpload where
  storageBackend : Text
  storageKey : Text

/-- `DEFAULT_UPLOAD_SESSION_TTL`, in seconds. -/
def defaultUploadSessionTtl : Int := 900

def UploadEnvironment.admitSession (env : UploadEnvironment)
    (request : CreateUploadSessionRequest) : Except ApplicationError Domain.Bucket := do
  let bucket ← env.ownedBucket request.applicationId request.bucketId
  domain (bucket.validateUpload request.expectedMime request.expectedSize)
  return bucket

/-- `prepare`, with what the storage answers. It writes nothing to the database. -/
def prepareUploadSession (env : UploadEnvironment) (sessionId : UploadSessionId)
    (prepared : Except ApplicationError PreparedUpload) (request : CreateUploadSessionRequest) :
    Option (Except ApplicationError Domain.UploadSession) := do
  match env.admitSession request with
  | .error e => return .error e
  | .ok bucket =>
      let sessionExpiresAt ← env.now.checkedAdd defaultUploadSessionTtl
      match prepared with
      | .error e => return .error e
      | .ok prepared =>
          let mediaExpiresAt ← mediaExpiry request.mediaExpiresAt bucket.policy env.now
          return domain (Domain.UploadSession.new {
            id := sessionId
            mediaId := env.mediaId
            applicationId := request.applicationId
            bucketId := request.bucketId
            objectKey := request.objectKey
            originalName := request.originalName
            displayName := request.displayName
            extension := request.extension
            expectedSize := request.expectedSize
            expectedMime := request.expectedMime
            storageBackend := prepared.storageBackend
            storageKey := prepared.storageKey
            visibilityOverride := request.visibilityOverride
            mediaExpiresAt := mediaExpiresAt.map OffsetDateTime.instant
            clientMetadata := request.metadata
            sessionExpiresAt := sessionExpiresAt.instant } env.now.instant)

/-- A default that is used leads to a supported date. -/
def ExpiryFits (expireAt : Option OffsetDateTime) (policy : Domain.BucketPolicy)
    (now : OffsetDateTime) : Prop :=
  expireAt = none → ∀ seconds, policy.defaultTtlSeconds = some seconds → seconds ≤ maxI64 →
    now.HasAfter seconds

theorem isSome_mediaExpiry (expireAt : Option OffsetDateTime) (policy : Domain.BucketPolicy)
    (now : OffsetDateTime) :
    (mediaExpiry expireAt policy now).isSome = true ↔ ExpiryFits expireAt policy now := by
  cases expireAt with
  | some expireAt => simp [mediaExpiry, ExpiryFits]
  | none =>
      simp only [mediaExpiry, ExpiryFits]
      cases policy.defaultTtlSeconds with
      | none => simp
      | some seconds =>
          by_cases hlarge : maxI64 < seconds
          · simp [hlarge]
          · simp only [hlarge, if_false, Option.isSome_map, true_implies, Option.some.injEq,
              forall_eq', Nat.not_lt.1 hlarge]
            exact now.isSome_checkedAdd (Int.natCast_nonneg seconds)

theorem exists_of_expiryFits {expireAt : Option OffsetDateTime} {policy : Domain.BucketPolicy}
    {now : OffsetDateTime} (h : ExpiryFits expireAt policy now) :
    ∃ expiry, mediaExpiry expireAt policy now = some expiry :=
  Option.isSome_iff_exists.1 ((isSome_mediaExpiry expireAt policy now).2 h)

theorem mediaExpiry_eq_none {expireAt : Option OffsetDateTime} {policy : Domain.BucketPolicy}
    {now : OffsetDateTime} (h : ¬ ExpiryFits expireAt policy now) :
    mediaExpiry expireAt policy now = none := by
  rw [← isSome_mediaExpiry, Bool.not_eq_true, Option.isSome_eq_false_iff, Option.isNone_iff_eq_none]
    at h
  exact h

/-- The fields of the request make a media, whenever it expires. -/
def UploadEnvironment.Builds (env : UploadEnvironment) (request : UploadMediaRequest) : Prop :=
  (env.buildUploadingMedia request none).isOk = true

theorem isOk_buildUploadingMedia (env : UploadEnvironment) (request : UploadMediaRequest)
    (expireAt : Option OffsetDateTime) :
    (env.buildUploadingMedia request expireAt).isOk = true ↔ env.Builds request := by
  rw [UploadEnvironment.Builds, UploadEnvironment.buildUploadingMedia,
    UploadEnvironment.buildUploadingMedia]
  cases Domain.SystemMetadata.new request.mime request.content.length none none none
      (env.sha256 request.content) with
  | error e => rfl
  | ok systemMetadata =>
      have hnew := Domain.Media.new_expireAt (env.newMedia request systemMetadata none)
        (expireAt.map OffsetDateTime.instant) env.now.instant
      simp only [Result.ok_bind]
      have heq : env.newMedia request systemMetadata expireAt =
          { env.newMedia request systemMetadata none with
            expireAt := expireAt.map OffsetDateTime.instant } := rfl
      rw [heq, hnew]
      cases Domain.Media.new (env.newMedia request systemMetadata none) env.now.instant with
      | error e => exact Iff.rfl
      | ok media => exact Iff.rfl

/-- An upload that gets as far as its dates gets past them. -/
def UploadFits (env : UploadEnvironment) (request : UploadMediaRequest) (db : Database) : Prop :=
  ∀ bucket reserved, env.accept request db = .ok bucket → env.reserve request db = .ok reserved →
    ExpiryFits request.expireAt bucket.policy env.now ∧
      (env.Builds request → env.now.HasAfter mediaUploadLeaseSeconds)

theorem upload_of_not_fits {env : UploadEnvironment} {request : UploadMediaRequest}
    {db reserved : Database} {bucket : Domain.Bucket} (haccept : env.accept request db = .ok bucket)
    (hreserve : env.reserve request db = .ok reserved)
    (h : ¬ (ExpiryFits request.expireAt bucket.policy env.now ∧
      (env.Builds request → env.now.HasAfter mediaUploadLeaseSeconds))) :
    upload env request db = (none, reserved) := by
  rw [upload, haccept, hreserve]
  by_cases hexpiry : ExpiryFits request.expireAt bucket.policy env.now
  · obtain ⟨expireAt, heq⟩ := exists_of_expiryFits hexpiry
    have hlease : env.Builds request ∧ ¬ env.now.HasAfter mediaUploadLeaseSeconds := by
      simpa [hexpiry] using h
    have hbuild := (isOk_buildUploadingMedia env request expireAt).2 hlease.1
    have hnone : env.now.checkedAdd mediaUploadLeaseSeconds = none := by
      have hnot := hlease.2
      rw [← env.now.isSome_checkedAdd (by decide)] at hnot
      simpa using hnot
    simp only [heq]
    split
    · next herror =>
        rw [herror] at hbuild
        exact Bool.noConfusion hbuild
    · next media _ => simp only [hnone]
  · simp only [mediaExpiry_eq_none hexpiry]

theorem isSome_upload_of_fits {env : UploadEnvironment} {request : UploadMediaRequest}
    {db : Database} (h : UploadFits env request db) :
    (upload env request db).1.isSome = true := by
  rw [upload]
  split
  · rfl
  · next bucket haccept =>
      split
      · rfl
      · next reserved hreserve =>
          obtain ⟨hexpiry, hlease⟩ := h bucket reserved haccept hreserve
          obtain ⟨expireAt, heq⟩ := exists_of_expiryFits hexpiry
          simp only [heq]
          split
          · rfl
          · next media hbuild =>
              have hbuilds : env.Builds request := by
                rw [← isOk_buildUploadingMedia env request expireAt, hbuild]
                rfl
              have hadd := (env.now.isSome_checkedAdd (by decide)).2 (hlease hbuilds)
              obtain ⟨leasedUntil, hleased⟩ := Option.isSome_iff_exists.1 hadd
              simp only [hleased]
              split
              · rfl
              · rfl

/-- An upload panics where a date does not fit, and then its bytes stay reserved without a row. -/
theorem upload_panics_iff (env : UploadEnvironment) (request : UploadMediaRequest)
    (db : Database) :
    ((upload env request db).1.isSome = true ↔ UploadFits env request db) ∧
      ((upload env request db).1 = none →
        env.reserve request db = .ok (upload env request db).2) := by
  by_cases hfits : UploadFits env request db
  · have hsome := isSome_upload_of_fits hfits
    refine ⟨⟨fun _ => hfits, fun _ => hsome⟩, fun hnone => ?_⟩
    rw [hnone] at hsome
    exact Bool.noConfusion hsome
  · have hnot := hfits
    simp only [UploadFits, not_forall] at hnot
    obtain ⟨bucket, reserved, haccept, hreserve, hdate⟩ := hnot
    rw [upload_of_not_fits haccept hreserve hdate]
    exact ⟨⟨fun hsome => Bool.noConfusion hsome, fun h => absurd h hfits⟩, fun _ => hreserve⟩

/-- A reservation changes no media. -/
theorem eq_of_reserve {env : UploadEnvironment} {request : UploadMediaRequest}
    {db reserved : Database} (h : env.reserve request db = .ok reserved) :
    request.content.length ≤ maxI64 ∧ reserved = db.mapApplications
      (·.update request.applicationId (Store.Application.reserve request.content.length)) := by
  rw [UploadEnvironment.reserve, UploadEnvironment.call] at h
  split at h
  · exact nomatch h
  · cases hrun : (Store.reserveQuota request.applicationId request.content.length).run db with
    | error e =>
        rw [hrun] at h
        exact nomatch h
    | ok reply =>
        rw [hrun] at h
        obtain rfl := Except.ok.inj h
        obtain ⟨hbytes, _, heq⟩ := Store.reserveBytes_ok.1 hrun
        exact ⟨hbytes, heq⟩

/-- A session that gets as far as its dates gets past them. -/
def SessionFits (env : UploadEnvironment) (prepared : Except ApplicationError PreparedUpload)
    (request : CreateUploadSessionRequest) : Prop :=
  ∀ bucket, env.admitSession request = .ok bucket →
    env.now.HasAfter defaultUploadSessionTtl ∧
      (prepared.isOk = true → ExpiryFits request.mediaExpiresAt bucket.policy env.now)

theorem isSome_prepareUploadSession (env : UploadEnvironment) (sessionId : UploadSessionId)
    (prepared : Except ApplicationError PreparedUpload) (request : CreateUploadSessionRequest) :
    (prepareUploadSession env sessionId prepared request).isSome = true ↔
      SessionFits env prepared request := by
  rw [prepareUploadSession, SessionFits]
  cases env.admitSession request with
  | error e => simp
  | ok bucket =>
      simp only [Except.ok.injEq, forall_eq']
      rw [← env.now.isSome_checkedAdd (by decide), ← isSome_mediaExpiry]
      cases env.now.checkedAdd defaultUploadSessionTtl with
      | none => simp
      | some sessionExpiresAt =>
          cases prepared with
          | error e => simp [Except.isOk, Except.toBool]
          | ok prepared =>
              cases mediaExpiry request.mediaExpiresAt bucket.policy env.now with
              | none => simp [Except.isOk, Except.toBool]
              | some mediaExpiresAt => simp

end MediaHub.Service

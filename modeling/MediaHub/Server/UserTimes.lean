import MediaHub.Http.ConfigurationXml
import MediaHub.Http.Hmac
import MediaHub.Http.Query
import MediaHub.Service.PutObject
import MediaHub.Service.Upload

namespace MediaHub.Server

open Result
open MediaHub.Core
open MediaHub.Http
open MediaHub.Http.Hmac (ApiError)
open MediaHub.Service
open MediaHub.Store (Database)

/-- `expiration_from_ttl`, with no result where it panics. -/
def expirationFromTtl (seconds : Nat) (now : OffsetDateTime) :
    Option (Except ApiError OffsetDateTime) :=
  if maxI64 < seconds then some (.error (.badRequest "ttl_seconds is too large"))
  else (now.checkedAdd seconds).map .ok

theorem isSome_expirationFromTtl (seconds : Nat) (now : OffsetDateTime) :
    (expirationFromTtl seconds now).isSome = true ↔ (seconds ≤ maxI64 → now.HasAfter seconds) := by
  rw [expirationFromTtl]
  by_cases hlarge : maxI64 < seconds
  · simp [hlarge]
  · rw [if_neg hlarge, Option.isSome_map, now.isSome_checkedAdd (Int.natCast_nonneg seconds)]
    simp [Nat.not_lt.1 hlarge]

def singleS3ObjectLockHeader (headers : HeaderMap) (name : String) :
    Except Http.S3ApiError (Option Text) :=
  match headers.getAll name.toList with
  | [] => .ok none
  | [value] =>
      match value.toStr with
      | some text => .ok (some text)
      | none => .error (.invalidArgument (name ++ " is invalid."))
  | _ => .error (.invalidRequest (name ++ " must occur exactly once."))

def parseS3RetentionMode (value : Text) : Except Http.S3ApiError RetentionMode :=
  if value = "GOVERNANCE".toList then .ok .governance
  else if value = "COMPLIANCE".toList then .ok .compliance
  else .error (.invalidArgument "Object Lock mode must be GOVERNANCE or COMPLIANCE.")

section

-- `OffsetDateTime::parse` of RFC 3339.
variable (parseRfc3339 : Text → Option OffsetDateTime)

/-- The retention up to the date that `name` gives, with no result where `to_offset` panics. -/
def retentionUntil (name : String) (mode : RetentionMode) (value : Text) (now : OffsetDateTime) :
    Option (Except Http.S3ApiError ObjectRetention) :=
  match parseRfc3339 value with
  | none => some (.error (.invalidArgument (name ++ " must be an RFC 3339 timestamp.")))
  | some date => do
      let retainUntil ← date.toUtc
      if retainUntil.instant ≤ now.instant then
        return .error (.invalidArgument (name ++ " must be in the future."))
      else return .ok ⟨mode, retainUntil.instant⟩

/-- The retention of both headers. -/
def parseRetention (modeText retainUntilText : Text) (now : OffsetDateTime) :
    Option (Except Http.S3ApiError ObjectRetention) :=
  match parseS3RetentionMode modeText with
  | .error e => some (.error e)
  | .ok mode =>
      retentionUntil parseRfc3339 "x-amz-object-lock-retain-until-date" mode retainUntilText now

def parseLegalHold (headers : HeaderMap) : Except Http.S3ApiError (Option Bool) := do
  match ← singleS3ObjectLockHeader headers "x-amz-object-lock-legal-hold" with
  | none => return none
  | some value =>
      if value = "ON".toList then return some true
      else if value = "OFF".toList then return some false
      else throw (.invalidArgument "x-amz-object-lock-legal-hold must be ON or OFF.")

/-- The mode and the date, which come together. -/
def lockDates (headers : HeaderMap) : Except Http.S3ApiError (Option (Text × Text)) := do
  let mode ← singleS3ObjectLockHeader headers "x-amz-object-lock-mode"
  let retainUntil ← singleS3ObjectLockHeader headers "x-amz-object-lock-retain-until-date"
  match mode, retainUntil with
  | none, none => return none
  | some mode, some retainUntil => return some (mode, retainUntil)
  | _, _ => throw (.invalidRequest ("x-amz-object-lock-mode and " ++
      "x-amz-object-lock-retain-until-date must both be supplied."))

def parsePutObjectLockHeaders (headers : HeaderMap) (now : OffsetDateTime) :
    Option (Except Http.S3ApiError NewS3ObjectLock) :=
  match lockDates headers with
  | .error e => some (.error e)
  | .ok none => some ((parseLegalHold headers).map fun legalHold => ⟨none, legalHold⟩)
  | .ok (some (mode, retainUntil)) =>
      (parseRetention parseRfc3339 mode retainUntil now).map fun retention => do
        let retention ← retention
        let legalHold ← parseLegalHold headers
        return ⟨some retention, legalHold⟩

def wellFormed {α : Type} (result : Except S3BucketConfigurationXmlError α) :
    Except Http.S3ApiError α :=
  result.mapError fun _ => .malformedXml

/-- The mode and the text of the date in a body. -/
def retentionFields (reader : Xml.Reader) (input : List UInt8) :
    Except Http.S3ApiError (RetentionMode × Text) := do
  let root ← wellFormed (parseS3ConfigurationXml reader input)
  wellFormed (validateS3ConfigurationRoot root "Retention")
  match root.children with
  | [mode, retainUntil] =>
      rejectIf (mode.name ≠ "Mode".toList ∨ retainUntil.name ≠ "RetainUntilDate".toList)
        .malformedXml
      let modeText ← wellFormed (requiredS3LeafText mode)
      let mode ← parseS3RetentionMode modeText
      let retainUntilText ← wellFormed (requiredS3LeafText retainUntil)
      return (mode, retainUntilText)
  | _ => throw .malformedXml

def parseS3ObjectRetentionXml (reader : Xml.Reader) (input : List UInt8) (now : OffsetDateTime) :
    Option (Except Http.S3ApiError ObjectRetention) :=
  match retentionFields reader input with
  | .error e => some (.error e)
  | .ok (mode, retainUntilText) =>
      retentionUntil parseRfc3339 "RetainUntilDate" mode retainUntilText now

/-- The date that the headers ask for, beside a mode that is one. -/
def Requests (headers : HeaderMap) (date : OffsetDateTime) : Prop :=
  ∃ modeText retainUntilText mode, lockDates headers = .ok (some (modeText, retainUntilText)) ∧
    parseRfc3339 retainUntilText = some date ∧ parseS3RetentionMode modeText = .ok mode

/-- The date that a body asks for, beside a mode that is one. -/
def BodyRequests (reader : Xml.Reader) (input : List UInt8) (date : OffsetDateTime) : Prop :=
  ∃ mode retainUntilText, retentionFields reader input = .ok (mode, retainUntilText) ∧
    parseRfc3339 retainUntilText = some date

theorem isSome_retentionUntil (name : String) (mode : RetentionMode) (value : Text)
    (now : OffsetDateTime) :
    (retentionUntil parseRfc3339 name mode value now).isSome = true ↔
      ∀ date, parseRfc3339 value = some date → Time.inRange date.instant = true := by
  rw [retentionUntil]
  cases parseRfc3339 value with
  | none => simp
  | some date =>
      have hdate : (∀ date', some date = some date' → Time.inRange date'.instant = true) ↔
          Time.inRange date.instant = true := by simp
      rw [hdate, ← date.isSome_toUtc]
      cases hutc : date.toUtc with
      | none => simp [hutc]
      | some retainUntil =>
          by_cases hpast : retainUntil.instant ≤ now.instant
          · simp [hutc, hpast]
          · simp [hutc, hpast]

theorem isSome_parseRetention (modeText retainUntilText : Text) (now : OffsetDateTime) :
    (parseRetention parseRfc3339 modeText retainUntilText now).isSome = true ↔
      ∀ date mode, parseRfc3339 retainUntilText = some date →
        parseS3RetentionMode modeText = .ok mode → Time.inRange date.instant = true := by
  rw [parseRetention]
  cases parseS3RetentionMode modeText with
  | error e => simp
  | ok mode =>
      rw [isSome_retentionUntil]
      constructor
      · intro h date mode' hdate _
        exact h date hdate
      · intro h date hdate
        exact h date mode hdate rfl

theorem isSome_parsePutObjectLockHeaders (headers : HeaderMap) (now : OffsetDateTime) :
    (parsePutObjectLockHeaders parseRfc3339 headers now).isSome = true ↔
      ∀ date, Requests parseRfc3339 headers date → Time.inRange date.instant = true := by
  simp only [parsePutObjectLockHeaders, Requests]
  cases lockDates headers with
  | error e => simp
  | ok dates =>
      cases dates with
      | none => simp
      | some dates =>
          obtain ⟨modeText, retainUntilText⟩ := dates
          rw [Option.isSome_map, isSome_parseRetention]
          constructor
          · rintro h date ⟨modeText', retainUntilText', mode, heq, hdate, hmode⟩
            obtain ⟨rfl, rfl⟩ := Prod.mk.inj (Option.some.inj (Except.ok.inj heq))
            exact h date mode hdate hmode
          · intro h date mode hdate hmode
            exact h date ⟨modeText, retainUntilText, mode, rfl, hdate, hmode⟩

theorem isSome_parseS3ObjectRetentionXml (reader : Xml.Reader) (input : List UInt8)
    (now : OffsetDateTime) :
    (parseS3ObjectRetentionXml parseRfc3339 reader input now).isSome = true ↔
      ∀ date, BodyRequests parseRfc3339 reader input date → Time.inRange date.instant = true := by
  simp only [parseS3ObjectRetentionXml, BodyRequests]
  cases retentionFields reader input with
  | error e => simp
  | ok fields =>
      obtain ⟨mode, retainUntilText⟩ := fields
      rw [isSome_retentionUntil]
      constructor
      · rintro h date ⟨mode', retainUntilText', heq, hdate⟩
        obtain ⟨rfl, rfl⟩ := Prod.mk.inj (Except.ok.inj heq)
        exact h date hdate
      · intro h date hdate
        exact h date ⟨mode, retainUntilText, rfl, hdate⟩

end

/-- Dates are computed without a panic exactly where they stay in the supported years: in the
lifetime of a request, the date of a retention in headers or in a body, an upload and an upload
session. An upload that panics has changed nothing but the quota, which it leaves reserved. -/
theorem userTimes_iff (parseRfc3339 : Text → Option OffsetDateTime) (seconds : Nat)
    (headers : HeaderMap) (reader : Xml.Reader) (body : List UInt8) (now : OffsetDateTime)
    (env : UploadEnvironment)
    (request : UploadMediaRequest) (db : Database) (sessionId : UploadSessionId)
    (prepared : Except ApplicationError PreparedUpload)
    (sessionRequest : CreateUploadSessionRequest) :
    ((expirationFromTtl seconds now).isSome = true ↔ (seconds ≤ maxI64 → now.HasAfter seconds)) ∧
    ((parsePutObjectLockHeaders parseRfc3339 headers now).isSome = true ↔
      ∀ date, Requests parseRfc3339 headers date → Time.inRange date.instant = true) ∧
    ((parseS3ObjectRetentionXml parseRfc3339 reader body now).isSome = true ↔
      ∀ date, BodyRequests parseRfc3339 reader body date → Time.inRange date.instant = true) ∧
    (((upload env request db).1.isSome = true ↔ UploadFits env request db) ∧
      ((upload env request db).1 = none → (upload env request db).2 = db.mapApplications
        (·.update request.applicationId (Store.Application.reserve request.content.length)))) ∧
    ((prepareUploadSession env sessionId prepared sessionRequest).isSome = true ↔
      SessionFits env prepared sessionRequest) := by
  have hupload := upload_panics_iff env request db
  refine ⟨isSome_expirationFromTtl seconds now,
    isSome_parsePutObjectLockHeaders parseRfc3339 headers now,
    isSome_parseS3ObjectRetentionXml parseRfc3339 reader body now, ⟨hupload.1, ?_⟩,
    isSome_prepareUploadSession env sessionId prepared sessionRequest⟩
  intro hnone
  exact (eq_of_reserve (hupload.2 hnone)).2

/-- 2025-01-01T00:00:00Z -/
def newYear2025 : OffsetDateTime := ⟨Time.seconds 1735689600, 0, by decide⟩

/-- 9999-12-31T23:59:59-01:00 -/
def lastSecondAbroad : OffsetDateTime := ⟨Time.seconds 253402300799, -3600, by decide⟩

def eternalPolicy : Domain.BucketPolicy where
  visibility := .private
  defaultTtlSeconds := some maxI64
  maxObjectSize := none
  allowedMimeTypes := ∅
  ttl_positive := by decide
  size_positive := by decide

def eternalUpload : UploadEnvironment where
  findBucket _ := some ⟨2, 1, "assets".toList, eternalPolicy, by decide⟩
  outage _ := none
  mediaId := 3
  leaseToken := "lease".toList
  now := newYear2025
  backendName := "local".toList
  sha256 _ := List.replicate 64 '0'

def threeBytes : UploadMediaRequest where
  applicationId := 1
  bucketId := 2
  objectKey := "a.png".toList
  originalName := none
  displayName := "a".toList
  extension := none
  mime := "image/png".toList
  content := [1, 2, 3]
  visibilityOverride := none
  expireAt := none
  metadata := ⟨[], [], Domain.validateContent_empty⟩

def tenBytesFree : Database := { Database.empty with
  applications := ⟨[⟨1, 10, 0, 0⟩], by decide⟩ }

/-- A policy that is accepted, a lifetime that is accepted and a date in a request each lead to a
panic, the first with three bytes reserved. -/
theorem userTimes_panic :
    Domain.BucketPolicy.new .private (some maxI64) none [] = .ok eternalPolicy ∧
      (upload eternalUpload threeBytes tenBytesFree).1 = none ∧
      (upload eternalUpload threeBytes tenBytesFree).2.applications.rows = [⟨1, 10, 0, 3⟩] ∧
      expirationFromTtl maxI64 newYear2025 = none ∧
      parsePutObjectLockHeaders (fun _ => some lastSecondAbroad)
        [("x-amz-object-lock-mode".toList, HeaderValue.ofText "GOVERNANCE".toList),
          ("x-amz-object-lock-retain-until-date".toList,
            HeaderValue.ofText "9999-12-31T23:59:59-01:00".toList)] newYear2025 = none := by
  refine ⟨by decide +kernel, by decide +kernel, by decide +kernel, by decide +kernel, ?_⟩
  decide +kernel

end MediaHub.Server

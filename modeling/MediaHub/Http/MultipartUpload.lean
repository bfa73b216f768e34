import MediaHub.Core.Storage
import MediaHub.Domain.Metadata
import MediaHub.Http.ListingXml
import MediaHub.Http.Query
import MediaHub.Policy.Statement

namespace MediaHub.Http

open Result
open MediaHub.Core (ApplicationId BucketId S3ObjectTagSet UserMetadata)
open MediaHub.Domain (Visibility)
open MediaHub.Policy (S3PolicyAction)

def initiateMultipartUploadResultXml (bucket : PlainText) (key : Text) (uploadId : PlainText) :
    Except S3XmlError Text :=
  renderPage .invalidXmlCharacter (elementName "InitiateMultipartUploadResult") false
    (.plain (elementName "Bucket") (.ok bucket)
      (.client (elementName "Key") key (.plain (elementName "UploadId") (.ok uploadId) .nil)))

def completeMultipartUploadResultXml (location : Text) (bucket : PlainText) (key : Text)
    (etag : PlainText) : Except S3XmlError Text :=
  renderPage .invalidXmlCharacter (elementName "CompleteMultipartUploadResult") false
    (.client (elementName "Location") location
      (.plain (elementName "Bucket") (.ok bucket)
        (.client (elementName "Key") key (.plain (elementName "ETag") (.ok etag) .nil))))

/-- The bucket that a request is authorized for. -/
structure S3AuthorizedBucket where
  applicationId : ApplicationId
  bucketId : BucketId
deriving DecidableEq

def ensureSameS3MultipartBucket (expected actual : S3AuthorizedBucket) : Except S3ApiError Unit :=
  rejectIf (expected ≠ actual) .serviceUnavailable

/-- What `s3_create_multipart_upload` reads in the headers, and what authorization and the
repository answer to it. -/
structure CreateMultipartUploadCalls where
  cannedAcl : Except S3ApiError (Option Visibility)
  contentType : Except S3ApiError Text
  userMetadata : Except S3ApiError UserMetadata
  objectTags : Except S3ApiError (Option S3ObjectTagSet)
  authorize : S3PolicyAction → Except S3ApiError S3AuthorizedBucket
  create : S3AuthorizedBucket → Text → UserMetadata → S3ObjectTagSet → Except S3ApiError Unit

namespace CreateMultipartUploadCalls

variable (calls : CreateMultipartUploadCalls)

/-- Where it is asked for, the action is allowed too, and in the same bucket. -/
def authorizeIf (asked : Bool) (authorization : S3AuthorizedBucket) (action : S3PolicyAction) :
    Except S3ApiError Unit :=
  if asked then do
    let other ← calls.authorize action
    ensureSameS3MultipartBucket authorization other
  else .ok ()

/-- The request up to the commit of the repository. -/
def run (key : Text) : Except S3ApiError Unit := do
  validateS3ObjectKey key
  let cannedAcl ← calls.cannedAcl
  let contentType ← calls.contentType
  let userMetadata ← calls.userMetadata
  let objectTags ← calls.objectTags
  let authorization ← calls.authorize .putObject
  calls.authorizeIf objectTags.isSome authorization .putObjectTagging
  calls.authorizeIf cannedAcl.isSome authorization .putObjectAcl
  calls.create authorization contentType userMetadata (objectTags.getD S3ObjectTagSet.empty)

/-- The key is valid and no call fails; tags and an ACL are allowed in the bucket of the object. -/
def Commits (key : Text) : Prop :=
  validS3ObjectKey key = true ∧ ∃ cannedAcl contentType userMetadata objectTags authorization,
    calls.cannedAcl = .ok cannedAcl ∧ calls.contentType = .ok contentType ∧
    calls.userMetadata = .ok userMetadata ∧ calls.objectTags = .ok objectTags ∧
    calls.authorize .putObject = .ok authorization ∧
    (objectTags.isSome = true → calls.authorize .putObjectTagging = .ok authorization) ∧
    (cannedAcl.isSome = true → calls.authorize .putObjectAcl = .ok authorization) ∧
    calls.create authorization contentType userMetadata
      (objectTags.getD S3ObjectTagSet.empty) = .ok ()

theorem authorizeIf_eq_ok_iff {asked : Bool} {authorization : S3AuthorizedBucket}
    {action : S3PolicyAction} {u : Unit} :
    calls.authorizeIf asked authorization action = .ok u ↔
      (asked = true → calls.authorize action = .ok authorization) := by
  cases asked with
  | false => simp [authorizeIf]
  | true => simp [authorizeIf, ensureSameS3MultipartBucket]

theorem run_eq_ok_iff {key : Text} : calls.run key = .ok () ↔ calls.Commits key := by
  simp only [run, Commits, validateS3ObjectKey, bind_eq_ok_iff, rejectIf_eq_ok_iff,
    Bool.not_eq_false, authorizeIf_eq_ok_iff, exists_const, exists_and_left]

end CreateMultipartUploadCalls

/-- The answer is written after the commit: the outer error is that of a request that comes to no
commit, the inner error that of an answer that cannot be written. -/
def s3CreateMultipartUpload (calls : CreateMultipartUploadCalls) (bucket : PlainText) (key : Text)
    (uploadId : PlainText) : Except S3ApiError (Except S3XmlError Text) := do
  calls.run key
  return initiateMultipartUploadResultXml bucket key uploadId

/-- How an upload is found: completed, perhaps without an entity tag, or not yet. -/
inductive MultipartUploadProgress where
  | completed (finalEtag : Option PlainText)
  | pending

/-- What authorization and the repository answer to `s3_complete_multipart_upload`. -/
structure CompleteMultipartUploadCalls where
  authorize : S3PolicyAction → Except S3ApiError S3AuthorizedBucket
  findUpload : S3AuthorizedBucket → Except S3ApiError MultipartUploadProgress
  -- the manifest of the body is read, and the completion claimed
  claimCompletion : Except S3ApiError MultipartUploadProgress
  -- from the sizes of the parts to `commit_multipart_object_version`; the entity tag is computed
  commit : Except S3ApiError PlainText
  findVersion : Except S3ApiError Unit

namespace CompleteMultipartUploadCalls

variable (calls : CompleteMultipartUploadCalls)

/-- `completed_multipart_response`, up to its answer. -/
def completedMultipart (finalEtag : Option PlainText) : Except S3ApiError PlainText :=
  match finalEtag with
  | none => .error .serviceUnavailable
  | some etag => do
      calls.findVersion
      return etag

/-- The commit of the claimed completion, whose version is then looked up. -/
def commitClaimed : Except S3ApiError PlainText := do
  let etag ← calls.commit
  calls.findVersion
  return etag

/-- The request up to its answer. -/
def run (key : Text) : Except S3ApiError PlainText := do
  validateS3ObjectKey key
  let authorization ← calls.authorize .putObject
  match ← calls.findUpload authorization with
  | .completed finalEtag => calls.completedMultipart finalEtag
  | .pending =>
      match ← calls.claimCompletion with
      | .completed finalEtag => calls.completedMultipart finalEtag
      | .pending => calls.commitClaimed

/-- The upload of the bucket is found completed with the entity tag, or completed so now. -/
def CompletedWith (authorization : S3AuthorizedBucket) (etag : PlainText) : Prop :=
  calls.findUpload authorization = .ok (.completed (some etag)) ∨
    calls.findUpload authorization = .ok .pending ∧
      (calls.claimCompletion = .ok (.completed (some etag)) ∨
        calls.claimCompletion = .ok .pending ∧ calls.commit = .ok etag)

/-- The key is valid, the object is committed and its version is found. -/
def Completes (key : Text) (etag : PlainText) : Prop :=
  validS3ObjectKey key = true ∧ ∃ authorization, calls.authorize .putObject = .ok authorization ∧
    calls.CompletedWith authorization etag ∧ calls.findVersion = .ok ()

theorem completedMultipart_eq_ok_iff {finalEtag : Option PlainText} {etag : PlainText} :
    calls.completedMultipart finalEtag = .ok etag ↔
      finalEtag = some etag ∧ calls.findVersion = .ok () := by
  cases finalEtag with
  | none => simp [completedMultipart]
  | some finalEtag =>
      simp only [completedMultipart, andThen_eq_ok_iff, pure_eq_ok_iff, Option.some.injEq]
      exact and_comm

theorem commitClaimed_eq_ok_iff {etag : PlainText} :
    calls.commitClaimed = .ok etag ↔ calls.commit = .ok etag ∧ calls.findVersion = .ok () := by
  simp only [commitClaimed, bind_eq_ok_iff, pure_eq_ok_iff]
  constructor
  · rintro ⟨etag', hcommit, _, hfind, rfl⟩
    exact ⟨hcommit, hfind⟩
  · rintro ⟨hcommit, hfind⟩
    exact ⟨etag, hcommit, (), hfind, rfl⟩

theorem run_eq_ok_iff {key : Text} {etag : PlainText} :
    calls.run key = .ok etag ↔ calls.Completes key etag := by
  rw [run, Completes, validateS3ObjectKey, andThen_eq_ok_iff, rejectIf_eq_ok_iff,
    Bool.not_eq_false, bind_eq_ok_iff]
  apply and_congr_right
  intro _
  apply exists_congr
  intro authorization
  apply and_congr_right
  intro _
  rw [CompletedWith]
  cases calls.findUpload authorization with
  | error e => simp [error_bind]
  | ok found =>
      cases found with
      | completed finalEtag => simp [ok_bind, completedMultipart_eq_ok_iff]
      | pending =>
          cases calls.claimCompletion with
          | error e => simp [ok_bind, error_bind]
          | ok claimed =>
              cases claimed with
              | completed finalEtag => simp [ok_bind, completedMultipart_eq_ok_iff]
              | pending => simp [ok_bind, commitClaimed_eq_ok_iff]

end CompleteMultipartUploadCalls

/-- The answer is written after the commit, be it of this request or of an earlier one. -/
def s3CompleteMultipartUpload (calls : CompleteMultipartUploadCalls) (location : Text)
    (bucket : PlainText) (key : Text) : Except S3ApiError (Except S3XmlError Text) := do
  let etag ← calls.run key
  return completeMultipartUploadResultXml location bucket key (quotedEtag etag)

end MediaHub.Http

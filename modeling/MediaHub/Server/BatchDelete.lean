import MediaHub.Catalog.Cursor
import MediaHub.Http.DeleteObjectsXml
import MediaHub.Policy.Authorization
import MediaHub.Store.DeleteEffects
import MediaHub.Xml.PlainReader

namespace MediaHub.Server

open Relational
open MediaHub.Core
open MediaHub.Http
open MediaHub.Store
open MediaHub.Policy (S3AccountId S3BucketIdentity S3BucketPolicySnapshot S3DataAuthorizationInput
  S3SignedPrincipal)
open Text (isAsciiControl)

structure S3ApiError where
  code : Text
  message : Text

namespace S3ApiError

def of (code message : String) : S3ApiError := ⟨code.toList, message.toList⟩

def accessDenied (message : String) : S3ApiError := of "AccessDenied" message

def invalidArgument (message : String) : S3ApiError := of "InvalidArgument" message

def noSuchBucket : S3ApiError := of "NoSuchBucket" "The specified bucket does not exist."

def noSuchKey : S3ApiError := of "NoSuchKey" "The specified key does not exist."

def noSuchVersion : S3ApiError := of "NoSuchVersion" "The specified version does not exist."

def operationAborted : S3ApiError :=
  of "OperationAborted"
    "A conflicting conditional operation is currently in progress against this resource."

def entityTooLarge : S3ApiError :=
  of "EntityTooLarge" "Your proposed upload exceeds the maximum allowed object size."

def internalError : S3ApiError :=
  of "InternalError" "We encountered an internal error. Please try again."

def serviceUnavailable : S3ApiError :=
  of "ServiceUnavailable" "Please reduce your request rate."

def ofXml (error : S3XmlError) : S3ApiError :=
  match error with
  | .inputTooLarge => of "EntityTooLarge" "the XML request body exceeds the supported limit"
  | .malformedXml => of "MalformedXML" "the XML request body is malformed"
  | .tooManyObjects =>
      of "MalformedXML" "a DeleteObjects request cannot contain more than 1000 objects"
  | .missingKey => of "MalformedXML" "each object must contain a non-empty Key"
  | .invalidXmlCharacter =>
      of "MalformedXML" "a value contains a character that XML 1.0 cannot represent"

end S3ApiError

/-- The errors of the object service that a delete can end in. -/
inductive DeleteServiceError where
  | bucketNotFound
  | versionNotFound
  | deleteLocked (reason : S3DeleteLockReason)
  | repository (error : RepositoryError)

def s3DeleteLockMessage : S3DeleteLockReason → String
  | .legalHold => "Object deletion is denied because an active legal hold is in effect."
  | .complianceRetention =>
      "Object deletion is denied because the compliance retention period is active."
  | .governanceRetention =>
      "Object deletion is denied because the governance retention period is active."

def mapS3ObjectServiceError : DeleteServiceError → S3ApiError
  | .bucketNotFound => .noSuchBucket
  | .versionNotFound => .noSuchVersion
  | .deleteLocked reason => .accessDenied (s3DeleteLockMessage reason)
  | .repository .conflict => .operationAborted
  | .repository .notFound => .noSuchKey
  | .repository .quotaExceeded => .entityTooLarge
  | .repository (.invariant _) => .internalError
  | .repository (.unavailable _) => .serviceUnavailable

/-- A text that is the one of a UUID is kept as that UUID. -/
def versionIdOfText (value : Text) : S3VersionId :=
  if value = "null".toList then .null
  else
    match Catalog.readHyphenated value with
    | none => .text (String.ofList value)
    | some id =>
        if Catalog.hyphenate (Catalog.simpleText id) = value then .uuid id
        else .text (String.ofList value)

/-- `S3VersionId::as_str` -/
def versionIdText : S3VersionId → Text
  | .null => "null".toList
  | .uuid id => Catalog.hyphenate (Catalog.simpleText id)
  | .text value => value.toList

theorem versionIdText_versionIdOfText (value : Text) :
    versionIdText (versionIdOfText value) = value := by
  unfold versionIdOfText
  split
  · next hnull => exact hnull.symm
  · split
    · exact String.toList_ofList
    · split
      · next htext => exact htext
      · exact String.toList_ofList

/-- `S3VersionId::new` -/
def newS3VersionId (value : Text) : Option S3VersionId :=
  if value ≠ [] ∧ Utf8.byteLength value ≤ 1024 ∧ value.any isAsciiControl = false then
    some (versionIdOfText value)
  else none

/-- The version id of a request, if it has one; `none` is one that is not valid. -/
def requestedVersionId : Option Text → Option (Option S3VersionId)
  | none => some none
  | some value => (newS3VersionId value).map some

structure HmacIdentity where
  accessKeyId : Text
  applicationId : ApplicationId

/-- A caller whose signature has been verified. -/
structure ApplicationAuth where
  applicationId : ApplicationId
  actorId : String
  hmacIdentity : Option HmacIdentity

structure S3IdentityPolicySnapshot where
  applicationId : ApplicationId
  accessKeyId : Text
  accountId : S3AccountId
  document : Option Policy.Text

/-- What the repository answers while one action is authorized. -/
structure AuthorizationAnswers where
  identityPolicy : Except RepositoryError (Option S3IdentityPolicySnapshot)
  bucketIdentity : Except RepositoryError (Option S3BucketIdentity)
  bucketPolicy : Except RepositoryError (Option S3BucketPolicySnapshot)

inductive S3SignedPrincipalResolution where
  | principal (principal : S3SignedPrincipal)
  | failClosed

def loadS3SignedPolicyPrincipal [Json.Parser] (auth : ApplicationAuth)
    (input : S3DataAuthorizationInput)
    (identityPolicy : Except RepositoryError (Option S3IdentityPolicySnapshot)) :
    Except S3ApiError S3SignedPrincipalResolution :=
  match auth.hmacIdentity with
  | none => .ok .failClosed
  | some identity =>
      match identityPolicy with
      | .ok none => .ok .failClosed
      | .error (.invariant _) => .ok .failClosed
      | .error _ => .error .serviceUnavailable
      | .ok (some snapshot) =>
          if snapshot.applicationId ≠ auth.applicationId ∨
              snapshot.applicationId ≠ identity.applicationId ∨
              snapshot.accessKeyId ≠ identity.accessKeyId then .ok .failClosed
          else
            match Policy.loadS3SignedPolicyPrincipal snapshot.document snapshot.accountId
                identity.accessKeyId input with
            | .error _ => .ok .failClosed
            | .ok principal => .ok (.principal principal)

def s3FailClosedForExistingBucket
    (bucketIdentity : Except RepositoryError (Option S3BucketIdentity)) :
    Except S3ApiError S3BucketIdentity :=
  match bucketIdentity with
  | .error _ => .error .serviceUnavailable
  | .ok none => .error .noSuchBucket
  | .ok (some _) => .error (.accessDenied "Access Denied.")

def authorizeS3PolicyPrincipalRequest [Json.Parser] (input : S3DataAuthorizationInput)
    (principal : S3SignedPrincipal)
    (bucketPolicy : Except RepositoryError (Option S3BucketPolicySnapshot)) :
    Except S3ApiError S3BucketIdentity :=
  match bucketPolicy with
  | .error _ => .error .serviceUnavailable
  | .ok snapshot =>
      match Policy.authorize snapshot (Policy.authorizationRequest input (.signed principal)) with
      | .error _ => .error .serviceUnavailable
      | .ok .bucketNotFound => .error .noSuchBucket
      | .ok (.allowed bucket) => .ok bucket
      | .ok (.explicitDeny _) => .error (.accessDenied "Access Denied.")
      | .ok (.implicitDeny _) => .error (.accessDenied "Access Denied.")

def authorizeS3SignedDataRequest [Json.Parser] (auth : ApplicationAuth)
    (input : S3DataAuthorizationInput) (answers : AuthorizationAnswers) :
    Except S3ApiError S3BucketIdentity := do
  match ← loadS3SignedPolicyPrincipal auth input answers.identityPolicy with
  | .principal principal => authorizeS3PolicyPrincipalRequest input principal answers.bucketPolicy
  | .failClosed => s3FailClosedForExistingBucket answers.bucketIdentity

/-- What a delete request says besides the objects. -/
structure DeleteContext where
  auth : ApplicationAuth
  bucketName : Text
  bypassGovernance : Bool
  secureTransport : Bool
  sourceIp : Option Policy.IpAddr
  gcGrace : Int

/-- What the repositories answer to the delete of one object beyond what they hold. -/
structure DeleteAnswers where
  authorization : AuthorizationAnswers
  bypass : AuthorizationAnswers
  bucketLookup : Option RepositoryError
  -- an error of the delete, and whether it comes after the commit
  deletion : Option (RepositoryError × Bool)
  now : Time
  deleteMarkerId : ObjectVersionId

def deleteAuthorizationInput (context : DeleteContext) (key : Text)
    (versionId : Option S3VersionId) : S3DataAuthorizationInput where
  action := if versionId.isSome then .deleteObjectVersion else .deleteObject
  bucketName := context.bucketName
  objectKey := some key
  versionId := versionId.map versionIdText
  keyPrefix := none
  delimiter := none
  maxKeys := none
  secureTransport := context.secureTransport
  sourceIp := context.sourceIp

def bypassAuthorizationInput (context : DeleteContext) (key : Text)
    (versionId : Option S3VersionId) : S3DataAuthorizationInput :=
  { deleteAuthorizationInput context key versionId with action := .bypassGovernanceRetention }

def authorizeS3SignedDeleteRequest [Json.Parser] (context : DeleteContext) (key : Text)
    (versionId : Option S3VersionId) (answers : DeleteAnswers) :
    Except S3ApiError S3BucketIdentity := do
  let authorized ← authorizeS3SignedDataRequest context.auth
    (deleteAuthorizationInput context key versionId) answers.authorization
  if context.bypassGovernance then
    let bypassAuthorized ← authorizeS3SignedDataRequest context.auth
      (bypassAuthorizationInput context key versionId) answers.bypass
    if bypassAuthorized.applicationId ≠ authorized.applicationId then
      .error .serviceUnavailable
    else .ok authorized
  else .ok authorized

structure DeleteObjectReceipt where
  versionId : Option S3VersionId
  deleteMarker : Bool

structure DeleteObjectRequest where
  applicationId : ApplicationId
  bucketName : Text
  objectKey : Text
  versionId : Option S3VersionId
  bypassGovernance : Bool
  deletedBy : String

def defaultS3GcMaxAttempts : Nat := 10

def deleteCommand (gcGrace : Int) (request : DeleteObjectRequest) (bucket : S3Bucket)
    (answers : DeleteAnswers) : DeleteS3ObjectCommand where
  applicationId := request.applicationId
  bucketId := bucket.id
  objectKey := String.ofList request.objectKey
  versionId := request.versionId
  bypassGovernance := request.bypassGovernance
  deletedBy := request.deletedBy
  deletedAt := answers.now
  deleteMarkerId := answers.deleteMarkerId
  deleteMarkerVersionId := .uuid answers.deleteMarkerId
  gcNotBefore := answers.now + gcGrace
  gcMaxAttempts := defaultS3GcMaxAttempts

/-- A transaction that may fail for reasons of its own, before or after its commit. -/
def answerOf {α : Type} (failure : Option (RepositoryError × Bool)) (tx : Transaction α)
    (db : Database) : Except RepositoryError α × Database :=
  match failure with
  | some (error, committed) => (.error error, if committed then tx.commit db else db)
  | none =>
      match tx.run db with
      | .ok (answer, db') => (.ok answer, db')
      | .error error => (.error error, db)

def receiptOf : DeleteS3ObjectOutcome → Except DeleteServiceError DeleteObjectReceipt
  | .deleted versionId deleteMarker => .ok ⟨versionId, deleteMarker⟩
  | .noOp => .ok ⟨none, false⟩
  | .versionNotFound => .error .versionNotFound
  | .locked reason => .error (.deleteLocked reason)

/-- `S3ObjectService::delete` -/
def serviceDelete (gcGrace : Int) (request : DeleteObjectRequest) (answers : DeleteAnswers)
    (db : Database) : Except DeleteServiceError DeleteObjectReceipt × Database :=
  match answers.bucketLookup with
  | some error => (.error (.repository error), db)
  | none =>
      match db.findBucketByName request.applicationId (String.ofList request.bucketName) with
      | none => (.error .bucketNotFound, db)
      | some bucket =>
          match answerOf answers.deletion
              (deleteS3Object (deleteCommand gcGrace request bucket answers)) db with
          | (.error error, db') => (.error (.repository error), db')
          | (.ok outcome, db') => (receiptOf outcome, db')

def deleteRequest (context : DeleteContext) (bucket : S3BucketIdentity) (key : Text)
    (versionId : Option S3VersionId) : DeleteObjectRequest where
  applicationId := bucket.applicationId
  bucketName := context.bucketName
  objectKey := key
  versionId := versionId
  bypassGovernance := context.bypassGovernance
  deletedBy := context.auth.actorId

/-- `s3_delete_object`; its response carries the receipt in its headers. -/
def s3DeleteObject [Json.Parser] (context : DeleteContext) (object : DeleteObjectIdentifier)
    (answers : DeleteAnswers) (db : Database) :
    Except S3ApiError DeleteObjectReceipt × Database :=
  if validS3ObjectKey object.key = false then
    (.error (.invalidArgument "The object key is invalid."), db)
  else
    match requestedVersionId object.versionId with
    | none => (.error (.invalidArgument "versionId is invalid."), db)
    | some versionId =>
        match authorizeS3SignedDeleteRequest context object.key versionId answers with
        | .error error => (.error error, db)
        | .ok bucket =>
            match serviceDelete context.gcGrace
                (deleteRequest context bucket object.key versionId) answers db with
            | (.error error, db') => (.error (mapS3ObjectServiceError error), db')
            | (.ok receipt, db') => (.ok receipt, db')

namespace DeleteResultOf

/-- What the batch reports of a deletion. -/
def deletedObject (object : DeleteObjectIdentifier) (receipt : DeleteObjectReceipt) :
    DeletedObject where
  key := object.key
  versionId := if receipt.deleteMarker then none else object.versionId
  deleteMarker := receipt.deleteMarker
  deleteMarkerVersionId := if receipt.deleteMarker then receipt.versionId.map versionIdText
    else none

def pushError (result : DeleteResult) (object : DeleteObjectIdentifier) (error : S3ApiError) :
    DeleteResult :=
  { result with
    errors := result.errors ++ [⟨object.key, object.versionId, error.code, error.message⟩] }

end DeleteResultOf

open DeleteResultOf (deletedObject pushError)

def recordS3BatchDeleteResult (result : DeleteResult) (object : DeleteObjectIdentifier)
    (quiet : Bool) (deletion : Except DeleteServiceError DeleteObjectReceipt) : DeleteResult :=
  match deletion with
  | .ok receipt =>
      if quiet then result
      else { result with deleted := result.deleted ++ [deletedObject object receipt] }
  | .error error => pushError result object (mapS3ObjectServiceError error)

/-- The body of the loop of `s3_bucket_post`. An error ends the loop and the response. -/
def deleteEntry [Json.Parser] (context : DeleteContext) (quiet : Bool) (result : DeleteResult)
    (object : DeleteObjectIdentifier) (answers : DeleteAnswers) (db : Database) :
    Except S3ApiError DeleteResult × Database :=
  match requestedVersionId object.versionId with
  | none =>
      (.ok (pushError result object (.invalidArgument "The version ID is invalid.")), db)
  | some versionId =>
      match authorizeS3SignedDeleteRequest context object.key versionId answers with
      | .error error =>
          if error.code = "AccessDenied".toList then
            (.ok (pushError result object (.accessDenied "Access Denied.")), db)
          else (.error error, db)
      | .ok bucket =>
          match serviceDelete context.gcGrace
              (deleteRequest context bucket object.key versionId) answers db with
          | (deletion, db') => (.ok (recordS3BatchDeleteResult result object quiet deletion), db')

def deleteEntries [Json.Parser] (context : DeleteContext) (quiet : Bool) (result : DeleteResult) :
    List (DeleteObjectIdentifier × DeleteAnswers) → Database →
      Except S3ApiError DeleteResult × Database
  | [], db => (.ok result, db)
  | (object, answers) :: entries, db =>
      match deleteEntry context quiet result object answers db with
      | (.error error, db') => (.error error, db')
      | (.ok result', db') => deleteEntries context quiet result' entries db'

/-- `s3_bucket_post` of a request whose document has been read. -/
def respondToBatch [Json.Parser] (context : DeleteContext) (quiet : Bool)
    (entries : List (DeleteObjectIdentifier × DeleteAnswers)) (db : Database) :
    Except S3ApiError Text × Database :=
  match deleteEntries context quiet ⟨[], []⟩ entries db with
  | (.error error, db') => (.error error, db')
  | (.ok result, db') => ((deleteResultXml result).mapError S3ApiError.ofXml, db')

/-- The objects of the document, each with the answers to its delete. -/
def batchEntries (request : DeleteObjectsRequest) (answers : Nat → DeleteAnswers) :
    List (DeleteObjectIdentifier × DeleteAnswers) :=
  request.objects.zipIdx.map fun entry => (entry.1, answers entry.2)

/-- `s3_bucket_post` of a request that was authenticated. -/
def s3BucketPost [Json.Parser] (reader : Xml.Reader) (context : DeleteContext)
    (content : List UInt8) (answers : Nat → DeleteAnswers) (db : Database) :
    Except S3ApiError Text × Database :=
  match parseDeleteObjectsXml reader content with
  | .error error => (.error (.ofXml error), db)
  | .ok request => respondToBatch context request.quiet (batchEntries request answers) db

end MediaHub.Server

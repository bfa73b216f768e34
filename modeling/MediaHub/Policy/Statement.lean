import MediaHub.Policy.Glob
import MediaHub.Policy.IpAddress

namespace MediaHub.Policy

inductive S3PolicyResourceScope where
  | account
  | bucket
  | object
  deriving DecidableEq

inductive S3PolicyAction where
  | listAllMyBuckets | createBucket | listBucket | listBucketVersions
  | listBucketMultipartUploads | getBucketLocation | getBucketVersioning | putBucketVersioning
  | getLifecycleConfiguration | putLifecycleConfiguration | deleteLifecycleConfiguration
  | getBucketObjectLockConfiguration | putBucketObjectLockConfiguration | getBucketCors
  | putBucketCors | getBucketTagging | putBucketTagging | getBucketPolicy | getBucketPolicyStatus
  | putBucketPolicy | deleteBucketPolicy | deleteBucket | getObject | getObjectVersion
  | getObjectAcl | getObjectVersionAcl | putObjectAcl | putObjectVersionAcl | putObject
  | deleteObject | deleteObjectVersion | getObjectTagging | getObjectVersionTagging
  | putObjectTagging | putObjectVersionTagging | deleteObjectTagging | deleteObjectVersionTagging
  | getObjectRetention | putObjectRetention | getObjectLegalHold | putObjectLegalHold
  | bypassGovernanceRetention | abortMultipartUpload | listMultipartUploadParts
  deriving DecidableEq

namespace S3PolicyAction

def all : List S3PolicyAction :=
  [.listAllMyBuckets, .createBucket, .listBucket, .listBucketVersions,
    .listBucketMultipartUploads, .getBucketLocation, .getBucketVersioning, .putBucketVersioning,
    .getLifecycleConfiguration, .putLifecycleConfiguration, .deleteLifecycleConfiguration,
    .getBucketObjectLockConfiguration, .putBucketObjectLockConfiguration, .getBucketCors,
    .putBucketCors, .getBucketTagging, .putBucketTagging, .getBucketPolicy,
    .getBucketPolicyStatus, .putBucketPolicy, .deleteBucketPolicy, .deleteBucket, .getObject,
    .getObjectVersion, .getObjectAcl, .getObjectVersionAcl, .putObjectAcl, .putObjectVersionAcl,
    .putObject, .deleteObject, .deleteObjectVersion, .getObjectTagging, .getObjectVersionTagging,
    .putObjectTagging, .putObjectVersionTagging, .deleteObjectTagging,
    .deleteObjectVersionTagging, .getObjectRetention, .putObjectRetention, .getObjectLegalHold,
    .putObjectLegalHold, .bypassGovernanceRetention, .abortMultipartUpload,
    .listMultipartUploadParts]

def asStr (action : S3PolicyAction) : Text :=
  String.toList <| match action with
    | .listAllMyBuckets => "s3:ListAllMyBuckets"
    | .createBucket => "s3:CreateBucket"
    | .listBucket => "s3:ListBucket"
    | .listBucketVersions => "s3:ListBucketVersions"
    | .listBucketMultipartUploads => "s3:ListBucketMultipartUploads"
    | .getBucketLocation => "s3:GetBucketLocation"
    | .getBucketVersioning => "s3:GetBucketVersioning"
    | .putBucketVersioning => "s3:PutBucketVersioning"
    | .getLifecycleConfiguration => "s3:GetLifecycleConfiguration"
    | .putLifecycleConfiguration => "s3:PutLifecycleConfiguration"
    | .deleteLifecycleConfiguration => "s3:DeleteLifecycleConfiguration"
    | .getBucketObjectLockConfiguration => "s3:GetBucketObjectLockConfiguration"
    | .putBucketObjectLockConfiguration => "s3:PutBucketObjectLockConfiguration"
    | .getBucketCors => "s3:GetBucketCORS"
    | .putBucketCors => "s3:PutBucketCORS"
    | .getBucketTagging => "s3:GetBucketTagging"
    | .putBucketTagging => "s3:PutBucketTagging"
    | .getBucketPolicy => "s3:GetBucketPolicy"
    | .getBucketPolicyStatus => "s3:GetBucketPolicyStatus"
    | .putBucketPolicy => "s3:PutBucketPolicy"
    | .deleteBucketPolicy => "s3:DeleteBucketPolicy"
    | .deleteBucket => "s3:DeleteBucket"
    | .getObject => "s3:GetObject"
    | .getObjectVersion => "s3:GetObjectVersion"
    | .getObjectAcl => "s3:GetObjectAcl"
    | .getObjectVersionAcl => "s3:GetObjectVersionAcl"
    | .putObjectAcl => "s3:PutObjectAcl"
    | .putObjectVersionAcl => "s3:PutObjectVersionAcl"
    | .putObject => "s3:PutObject"
    | .deleteObject => "s3:DeleteObject"
    | .deleteObjectVersion => "s3:DeleteObjectVersion"
    | .getObjectTagging => "s3:GetObjectTagging"
    | .getObjectVersionTagging => "s3:GetObjectVersionTagging"
    | .putObjectTagging => "s3:PutObjectTagging"
    | .putObjectVersionTagging => "s3:PutObjectVersionTagging"
    | .deleteObjectTagging => "s3:DeleteObjectTagging"
    | .deleteObjectVersionTagging => "s3:DeleteObjectVersionTagging"
    | .getObjectRetention => "s3:GetObjectRetention"
    | .putObjectRetention => "s3:PutObjectRetention"
    | .getObjectLegalHold => "s3:GetObjectLegalHold"
    | .putObjectLegalHold => "s3:PutObjectLegalHold"
    | .bypassGovernanceRetention => "s3:BypassGovernanceRetention"
    | .abortMultipartUpload => "s3:AbortMultipartUpload"
    | .listMultipartUploadParts => "s3:ListMultipartUploadParts"

def scope : S3PolicyAction → S3PolicyResourceScope
  | .listAllMyBuckets | .createBucket => .account
  | .listBucket | .listBucketVersions | .listBucketMultipartUploads | .getBucketLocation
  | .getBucketVersioning | .putBucketVersioning | .getLifecycleConfiguration
  | .putLifecycleConfiguration | .deleteLifecycleConfiguration
  | .getBucketObjectLockConfiguration | .putBucketObjectLockConfiguration | .getBucketCors
  | .putBucketCors | .getBucketTagging | .putBucketTagging | .getBucketPolicy
  | .getBucketPolicyStatus | .putBucketPolicy | .deleteBucketPolicy | .deleteBucket => .bucket
  | _ => .object

end S3PolicyAction

def s3BucketPolicyActions : List S3PolicyAction :=
  [.listBucket, .listBucketVersions, .listBucketMultipartUploads, .getBucketLocation,
    .getBucketVersioning, .putBucketVersioning, .getLifecycleConfiguration,
    .putLifecycleConfiguration, .deleteLifecycleConfiguration, .getBucketObjectLockConfiguration,
    .putBucketObjectLockConfiguration, .getBucketCors, .putBucketCors, .getBucketTagging,
    .putBucketTagging, .getBucketPolicy, .getBucketPolicyStatus, .putBucketPolicy,
    .deleteBucketPolicy, .deleteBucket, .getObject, .getObjectVersion, .getObjectAcl,
    .getObjectVersionAcl, .putObjectAcl, .putObjectVersionAcl, .putObject, .deleteObject,
    .deleteObjectVersion, .getObjectTagging, .getObjectVersionTagging, .putObjectTagging,
    .putObjectVersionTagging, .deleteObjectTagging, .deleteObjectVersionTagging,
    .getObjectRetention, .putObjectRetention, .getObjectLegalHold, .putObjectLegalHold,
    .bypassGovernanceRetention, .abortMultipartUpload, .listMultipartUploadParts]

inductive S3PolicyErrorKind where
  | syntaxError
  | validation
  | limitExceeded
  deriving DecidableEq

inductive S3PolicyErrorCode where
  | malformedJson
  | policyTooLarge
  | policyTooDeep
  | invalidDocument
  | unsupportedVersion
  | unsupportedField
  | invalidStatement
  | invalidPrincipal
  | unsupportedAction
  | invalidResource
  | unsupportedCondition
  | limitExceeded
  deriving DecidableEq

structure S3PolicyError where
  kind : S3PolicyErrorKind
  code : S3PolicyErrorCode
  deriving DecidableEq

namespace S3PolicyError

def ofSyntax (code : S3PolicyErrorCode) : S3PolicyError := { kind := .syntaxError, code }

def validation (code : S3PolicyErrorCode) : S3PolicyError := { kind := .validation, code }

def limit (code : S3PolicyErrorCode) : S3PolicyError := { kind := .limitExceeded, code }

end S3PolicyError

inductive S3PolicyEffect where
  | allow
  | deny
  deriving DecidableEq

inductive S3PolicyDecision where
  | allow
  | explicitDeny
  | implicitDeny
  deriving DecidableEq

inductive S3AwsPrincipal where
  | any
  | account (account : Text)
  | arn (arn : Text)
  deriving DecidableEq

inductive S3PolicyPrincipal where
  | any
  | aws (principals : List S3AwsPrincipal)
  deriving DecidableEq

inductive S3PrincipalClause where
  | principal (principal : S3PolicyPrincipal)
  | notPrincipal (principal : S3PolicyPrincipal)
  deriving DecidableEq

inductive S3ActionClause where
  | action (patterns : List Text)
  | notAction (patterns : List Text)
  deriving DecidableEq

inductive S3ResourceClause where
  | resource (patterns : List Text)
  | notResource (patterns : List Text)
  deriving DecidableEq

inductive S3ConditionOperator where
  | stringEquals
  | stringNotEquals
  | stringLike
  | stringNotLike
  | bool
  | ipAddress
  | notIpAddress
  | numericLessThanEquals
  | null
  deriving DecidableEq

inductive S3ConditionKey where
  | secureTransport
  | sourceIp
  | principalArn
  | userId
  | keyPrefix
  | delimiter
  | maxKeys
  | versionId
  deriving DecidableEq

inductive S3ConditionValue where
  | string (value : Text)
  | bool (value : Bool)
  | ip (network : IpNetwork)
  | unsigned (value : Nat)
  deriving DecidableEq

structure S3PolicyCondition where
  operator : S3ConditionOperator
  key : S3ConditionKey
  values : List S3ConditionValue
  deriving DecidableEq

structure S3PolicyStatement where
  sid : Option Text
  effect : S3PolicyEffect
  principal : S3PrincipalClause
  actions : S3ActionClause
  resources : S3ResourceClause
  conditions : List S3PolicyCondition

structure S3IdentityPolicyStatement where
  sid : Option Text
  effect : S3PolicyEffect
  actions : S3ActionClause
  resources : S3ResourceClause
  conditions : List S3PolicyCondition

structure S3IdentityPolicy where
  version : Text
  id : Option Text
  statements : List S3IdentityPolicyStatement

structure S3BucketPolicy where
  version : Text
  id : Option Text
  targetBucket : Text
  statements : List S3PolicyStatement

end MediaHub.Policy

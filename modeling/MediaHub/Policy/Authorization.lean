import MediaHub.Policy.Document
import MediaHub.Policy.OrderFree

namespace MediaHub.Policy

open Json (Value)
open Text (isControl isAsciiDigit)

/-- An account of twelve digits. -/
structure S3AccountId where
  value : Text
  valid : validAccountId value = true
  deriving DecidableEq

inductive S3PrincipalValidationError where
  | invalidPrincipalArn
  | principalAccountMismatch
  | invalidUserId
  deriving DecidableEq

/-- `valid_resource` of `validate_principal_arn`. -/
def validPrincipalResource (service name : Text) : Bool :=
  if service = "iam".toList then
    name == "root".toList || validPrincipalPath name "user/".toList ||
      validPrincipalPath name "role/".toList
  else validPrincipalPath name "assumed-role/".toList

def validatePrincipalArn (principalArn expectedAccountId : Text) :
    Except S3PrincipalValidationError Unit :=
  if maxS3PolicyStringBytes < Utf8.byteLength principalArn then .error .invalidPrincipalArn
  else
    match Text.splitN ':' 6 principalArn with
    | [start, partition, service, region, account, name] =>
        if start ≠ "arn".toList ∨ partition ≠ "aws".toList ∨
            ¬ (service = "iam".toList ∨ service = "sts".toList) ∨ region ≠ [] ∨
            Utf8.byteLength account ≠ 12 ∨ account.all isAsciiDigit = false then
          .error .invalidPrincipalArn
        else if account ≠ expectedAccountId then .error .principalAccountMismatch
        else if validPrincipalResource service name then .ok ()
        else .error .invalidPrincipalArn
    | _ => .error .invalidPrincipalArn

def validUserid (userid : Text) : Bool :=
  !userid.isEmpty && Utf8.byteLength userid ≤ maxS3PolicyStringBytes && !userid.any isControl

/-- A caller whose signature was verified, with the verdict of its own policy. -/
structure S3SignedPrincipal where
  accountId : S3AccountId
  principalArn : Text
  userid : Text
  identityDecision : S3PolicyDecision
  validArn : validatePrincipalArn principalArn accountId.value = .ok ()
  validUser : validUserid userid = true

def S3SignedPrincipal.new (accountId : S3AccountId) (principalArn userid : Text)
    (identityDecision : S3PolicyDecision) :
    Except S3PrincipalValidationError S3SignedPrincipal :=
  match harn : validatePrincipalArn principalArn accountId.value with
  | .error error => .error error
  | .ok () =>
      if huser : validUserid userid = true then
        .ok { accountId, principalArn, userid, identityDecision, validArn := harn
              validUser := huser }
      else .error .invalidUserId

inductive S3AuthorizationPrincipal where
  | anonymous
  | signed (principal : S3SignedPrincipal)

structure S3AuthorizationRequest where
  action : S3PolicyAction
  bucketName : Text
  objectKey : Option Text
  versionId : Option Text
  principal : S3AuthorizationPrincipal
  secureTransport : Bool
  sourceIp : Option IpAddr
  keyPrefix : Option Text
  delimiter : Option Text
  maxKeys : Option Nat

structure S3BucketIdentity where
  bucketId : Nat
  applicationId : Nat
  bucketName : Text
  ownerAccountId : S3AccountId
  deriving DecidableEq

/-- A bucket with the policy that is kept for it. -/
structure S3BucketPolicySnapshot where
  identity : S3BucketIdentity
  policy : Option Value

inductive S3AuthorizationOutcome where
  | bucketNotFound
  | allowed (bucket : S3BucketIdentity)
  | explicitDeny (bucket : S3BucketIdentity)
  | implicitDeny (bucket : S3BucketIdentity)
  deriving DecidableEq

inductive BucketPolicyEvaluation where
  | decision (decision : S3PolicyDecision)
  | invalidPersistedPolicy

def evaluateBucketPolicy [Json.Parser] (snapshot : S3BucketPolicySnapshot)
    (request : S3PolicyRequest) : BucketPolicyEvaluation :=
  match snapshot.policy with
  | none => .decision .implicitDeny
  | some document =>
      match S3BucketPolicy.parse (Json.render document) snapshot.identity.bucketName with
      | .error _ => .invalidPersistedPolicy
      | .ok policy => .decision (policy.evaluate request)

/-- The principal's ARN, account and user id. -/
def principalContext : S3AuthorizationPrincipal → Option Text × Option Text × Option Text
  | .anonymous => (none, none, none)
  | .signed principal =>
      (some principal.principalArn, some principal.accountId.value, some principal.userid)

def corePolicyRequest (request : S3AuthorizationRequest) : S3PolicyRequest :=
  { action := request.action, bucket := request.bucketName, key := request.objectKey
    versionId := request.versionId
    principalArn := (principalContext request.principal).1
    principalAccount := (principalContext request.principal).2.1
    userid := (principalContext request.principal).2.2
    secureTransport := request.secureTransport, sourceIp := request.sourceIp
    query :=
      { keyPrefix := request.keyPrefix, delimiter := request.delimiter
        maxKeys := request.maxKeys } }

def bounded (value : Option Text) (maxLen : Nat) : Bool :=
  value.all fun value => Utf8.byteLength value ≤ maxLen

def requestIsWellFormed (request : S3AuthorizationRequest) : Bool :=
  let validResource := match request.action.scope, request.objectKey with
    | .bucket, none => true
    | .object, some key => !key.isEmpty && Utf8.byteLength key ≤ maxS3PolicyRuntimeKeyBytes
    | _, _ => false
  validBucketName request.bucketName && validResource &&
    bounded request.versionId maxS3PolicyStringBytes &&
    bounded request.keyPrefix maxS3PolicyRuntimeKeyBytes &&
    bounded request.delimiter maxS3PolicyStringBytes

/-- The lookup of another bucket than the one that was asked for. -/
inductive RepositoryError where
  | invariant
  deriving DecidableEq

def identityDecisionOf : S3AuthorizationPrincipal → S3PolicyDecision
  | .anonymous => .implicitDeny
  | .signed principal => principal.identityDecision

def isAllowed (principal : S3AuthorizationPrincipal) (owner : S3AccountId)
    (bucketDecision : S3PolicyDecision) : Bool :=
  match principal with
  | .anonymous => bucketDecision == .allow
  | .signed principal =>
      if principal.accountId = owner then
        principal.identityDecision == .allow || bucketDecision == .allow
      else principal.identityDecision == .allow && bucketDecision == .allow

/-- `S3AuthorizationService::authorize`, on what the repository returns for the bucket. -/
def authorize [Json.Parser] (snapshot : Option S3BucketPolicySnapshot)
    (request : S3AuthorizationRequest) : Except RepositoryError S3AuthorizationOutcome :=
  match snapshot with
  | none => .ok .bucketNotFound
  | some snapshot =>
      if snapshot.identity.bucketName ≠ request.bucketName then .error .invariant
      else if identityDecisionOf request.principal = .explicitDeny then
        .ok (.explicitDeny snapshot.identity)
      else if requestIsWellFormed request = false then .ok (.implicitDeny snapshot.identity)
      else
        match evaluateBucketPolicy snapshot (corePolicyRequest request) with
        | .invalidPersistedPolicy => .ok (.implicitDeny snapshot.identity)
        | .decision bucketDecision =>
            if bucketDecision = .explicitDeny then .ok (.explicitDeny snapshot.identity)
            else if isAllowed request.principal snapshot.identity.ownerAccountId
                bucketDecision then
              .ok (.allowed snapshot.identity)
            else .ok (.implicitDeny snapshot.identity)

structure S3DataAuthorizationInput where
  action : S3PolicyAction
  bucketName : Text
  objectKey : Option Text
  versionId : Option Text
  keyPrefix : Option Text
  delimiter : Option Text
  maxKeys : Option Nat
  secureTransport : Bool
  sourceIp : Option IpAddr

def s3IdentityPolicyResource (input : S3DataAuthorizationInput) :
    Option S3IdentityPolicyResource :=
  match input.action.scope, input.objectKey with
  | .account, none => some .account
  | .bucket, none => some (.bucket input.bucketName)
  | .object, some key => some (.object input.bucketName key)
  | _, _ => none

def s3IdentityPolicyRequest (input : S3DataAuthorizationInput)
    (principalArn principalAccount userid : Text) : Option S3IdentityPolicyRequest :=
  (s3IdentityPolicyResource input).map fun resource =>
    { action := input.action, resource, versionId := input.versionId
      principalArn := some principalArn, principalAccount := some principalAccount
      userid := some userid, secureTransport := input.secureTransport
      sourceIp := input.sourceIp
      query :=
        { keyPrefix := input.keyPrefix, delimiter := input.delimiter
          maxKeys := input.maxKeys } }

/-- The ARN of the user behind an access key. -/
def accessKeyArn (accountId : S3AccountId) (accessKeyId : Text) : Text :=
  "arn:aws:iam::".toList ++ accountId.value ++ ":user/".toList ++ accessKeyId

/-- The verdict of the policy that is kept for an access key. -/
def evaluateIdentityPolicy [Json.Parser] (document : Option Text) (accountId : S3AccountId)
    (accessKeyId : Text) (input : S3DataAuthorizationInput) : S3PolicyDecision :=
  match document with
  | none => .implicitDeny
  | some document =>
      match S3IdentityPolicy.parse document with
      | .error _ => .implicitDeny
      | .ok policy =>
          match s3IdentityPolicyRequest input (accessKeyArn accountId accessKeyId)
              accountId.value accessKeyId with
          | none => .implicitDeny
          | some request => policy.evaluate request

/-- `load_s3_signed_policy_principal`, once the access key's policy is found. -/
def loadS3SignedPolicyPrincipal [Json.Parser] (document : Option Text) (accountId : S3AccountId)
    (accessKeyId : Text) (input : S3DataAuthorizationInput) :
    Except S3PrincipalValidationError S3SignedPrincipal :=
  S3SignedPrincipal.new accountId (accessKeyArn accountId accessKeyId) accessKeyId
    (evaluateIdentityPolicy document accountId accessKeyId input)

def authorizationRequest (input : S3DataAuthorizationInput)
    (principal : S3AuthorizationPrincipal) : S3AuthorizationRequest :=
  { action := input.action, bucketName := input.bucketName, objectKey := input.objectKey
    versionId := input.versionId, principal, secureTransport := input.secureTransport
    sourceIp := input.sourceIp, keyPrefix := input.keyPrefix, delimiter := input.delimiter
    maxKeys := input.maxKeys }

/-- Who asks: nobody known, or the holder of an access key and the policy kept for it. -/
inductive Caller where
  | anonymous
  | signed (accountId : S3AccountId) (accessKeyId : Text) (document : Option Text)

/-- The principal that the caller is taken for: one that is not valid gets no further. -/
def Caller.principal [Json.Parser] (caller : Caller) (input : S3DataAuthorizationInput) :
    Option S3AuthorizationPrincipal :=
  match caller with
  | .anonymous => some .anonymous
  | .signed accountId accessKeyId document =>
      match loadS3SignedPolicyPrincipal document accountId accessKeyId input with
      | .error _ => none
      | .ok principal => some (.signed principal)

/-- `authorize_s3_data_request`, on what the repository returns for the bucket. -/
def authorizeS3DataRequest [Json.Parser] (caller : Caller) (input : S3DataAuthorizationInput)
    (snapshot : Option S3BucketPolicySnapshot) :
    Option (Except RepositoryError S3AuthorizationOutcome) :=
  (caller.principal input).map fun principal =>
    authorize snapshot (authorizationRequest input principal)

end MediaHub.Policy

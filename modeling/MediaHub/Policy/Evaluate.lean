import MediaHub.Policy.Names
import MediaHub.Policy.Parse

namespace MediaHub.Policy

open Text (isControl)

structure S3PolicyQuery where
  keyPrefix : Option Text
  delimiter : Option Text
  maxKeys : Option Nat
  deriving DecidableEq

/-- What the conditions of a statement may ask about. -/
structure S3PolicyRequestContext where
  versionId : Option Text
  principalArn : Option Text
  principalAccount : Option Text
  userid : Option Text
  secureTransport : Bool
  sourceIp : Option IpAddr
  query : S3PolicyQuery
  deriving DecidableEq

structure S3PolicyRequest extends S3PolicyRequestContext where
  action : S3PolicyAction
  bucket : Text
  key : Option Text

inductive S3IdentityPolicyResource where
  | account
  | bucket (bucket : Text)
  | object (bucket key : Text)

def S3IdentityPolicyResource.scope : S3IdentityPolicyResource → S3PolicyResourceScope
  | .account => .account
  | .bucket _ => .bucket
  | .object _ _ => .object

structure S3IdentityPolicyRequest extends S3PolicyRequestContext where
  action : S3PolicyAction
  resource : S3IdentityPolicyResource

structure S3PolicyEvaluationRequest extends S3PolicyRequestContext where
  action : S3PolicyAction
  resource : Text
  deriving DecidableEq

def requestContextIsWellFormed (request : S3PolicyRequestContext) : Bool :=
  request.principalArn.all validRuntimePrincipalArn &&
    request.principalAccount.all validAccountId &&
    request.userid.all (fun value =>
      !value.isEmpty && Utf8.byteLength value ≤ maxS3PolicyStringBytes && !value.any isControl) &&
    request.versionId.all (fun value => Utf8.byteLength value ≤ maxS3PolicyStringBytes) &&
    request.query.keyPrefix.all (fun value => Utf8.byteLength value ≤ maxS3PolicyRuntimeKeyBytes) &&
    request.query.delimiter.all fun value => Utf8.byteLength value ≤ maxS3PolicyStringBytes

/-- What both kinds of requests ask of a key. -/
def validRuntimeKey (key : Text) : Bool :=
  !key.isEmpty && Utf8.byteLength key ≤ maxS3PolicyRuntimeKeyBytes

def bucketResource (bucket : Text) : Text := resourceStart ++ bucket

def objectResource (bucket key : Text) : Text := resourceStart ++ bucket ++ '/' :: key

namespace S3PolicyRequest

def isWellFormed (self : S3PolicyRequest) : Bool :=
  validBucketName self.bucket &&
    (match self.action.scope, self.key with
      | .bucket, none => true
      | .object, some key => validRuntimeKey key
      | _, _ => false) &&
    requestContextIsWellFormed self.toS3PolicyRequestContext

def evaluationRequest (self : S3PolicyRequest) : Option S3PolicyEvaluationRequest :=
  if !self.isWellFormed then none
  else
    some
      { self with
        resource := match self.key with
          | some key => objectResource self.bucket key
          | none => bucketResource self.bucket }

end S3PolicyRequest

namespace S3IdentityPolicyRequest

/-- The text of the addressed resource, if the resource is well formed. -/
def resourceText : S3IdentityPolicyResource → Option Text
  | .account => some "*".toList
  | .bucket bucket => if validBucketName bucket then some (bucketResource bucket) else none
  | .object bucket key =>
      if validBucketName bucket && validRuntimeKey key then some (objectResource bucket key)
      else none

def evaluationRequest (self : S3IdentityPolicyRequest) : Option S3PolicyEvaluationRequest :=
  if self.action.scope ≠ self.resource.scope ∨
      !requestContextIsWellFormed self.toS3PolicyRequestContext then none
  else
    (resourceText self.resource).map fun resource => { self with resource }

end S3IdentityPolicyRequest

/-- The text of a resource of some scope. -/
inductive IsResourceOf : S3PolicyResourceScope → Text → Prop
  | account : IsResourceOf .account "*".toList
  | bucket {bucket} (h : validBucketName bucket = true) :
      IsResourceOf .bucket (bucketResource bucket)
  | object {bucket key} (h : validBucketName bucket = true) (hkey : validRuntimeKey key = true) :
      IsResourceOf .object (objectResource bucket key)

/-- The request, about a resource by its text. -/
def S3PolicyRequest.about (request : S3PolicyRequest) (resource : Text) :
    S3PolicyEvaluationRequest :=
  { request with resource }

/-- A request is about the bucket or about an object of it, as the scope of its action says. -/
theorem S3PolicyRequest.evaluationRequest_eq_some_iff {request : S3PolicyRequest}
    {evaluated : S3PolicyEvaluationRequest} :
    request.evaluationRequest = some evaluated ↔
      requestContextIsWellFormed request.toS3PolicyRequestContext = true ∧
        validBucketName request.bucket = true ∧
        ((request.key = none ∧ request.action.scope = .bucket ∧
            evaluated = request.about (bucketResource request.bucket)) ∨
          ∃ key, request.key = some key ∧ validRuntimeKey key = true ∧
            request.action.scope = .object ∧
            evaluated = request.about (objectResource request.bucket key)) := by
  obtain ⟨context, action, bucket, key⟩ := request
  have hformed : isWellFormed ⟨context, action, bucket, key⟩ = true ↔
      requestContextIsWellFormed context = true ∧ validBucketName bucket = true ∧
        ((key = none ∧ action.scope = .bucket) ∨
          ∃ name, key = some name ∧ validRuntimeKey name = true ∧ action.scope = .object) := by
    rw [isWellFormed, Bool.and_eq_true, Bool.and_eq_true]
    cases key with
    | none =>
        cases hscope : action.scope <;> simp [and_comm]
    | some name =>
        cases hscope : action.scope <;> simp [and_comm]
  rw [evaluationRequest]
  split
  · next hnot =>
      refine iff_of_false (by simp) ?_
      rintro ⟨hcontext, hbucket, hcases⟩
      have hyes := hformed.2 ⟨hcontext, hbucket, hcases.imp (fun h => ⟨h.1, h.2.1⟩)
        fun ⟨name, hname, hkey, hscope, _⟩ => ⟨name, hname, hkey, hscope⟩⟩
      simp [hyes] at hnot
  · next hyes =>
      obtain ⟨hcontext, hbucket, hcases⟩ := hformed.1 (by simpa using hyes)
      rw [Option.some.injEq]
      constructor
      · rintro rfl
        refine ⟨hcontext, hbucket, ?_⟩
        rcases hcases with ⟨rfl, hscope⟩ | ⟨name, rfl, hkey, hscope⟩
        · exact Or.inl ⟨rfl, hscope, rfl⟩
        · exact Or.inr ⟨name, rfl, hkey, hscope, rfl⟩
      · rintro ⟨_, _, ⟨hnone, _, rfl⟩ | ⟨name, hsome, _, _, rfl⟩⟩
        · cases hnone
          rfl
        · cases hsome
          rfl

theorem S3PolicyRequest.context_of_evaluationRequest {request : S3PolicyRequest}
    {evaluated : S3PolicyEvaluationRequest} (h : request.evaluationRequest = some evaluated) :
    evaluated.toS3PolicyRequestContext = request.toS3PolicyRequestContext := by
  obtain ⟨_, _, ⟨_, _, rfl⟩ | ⟨_, _, _, _, rfl⟩⟩ := evaluationRequest_eq_some_iff.1 h
  · rfl
  · rfl

theorem validAccount_of_wellFormed {request : S3PolicyRequestContext}
    (h : requestContextIsWellFormed request = true) :
    request.principalAccount.all validAccountId = true := by
  simp only [requestContextIsWellFormed, Bool.and_eq_true] at h
  exact h.1.1.1.1.2

theorem S3IdentityPolicyRequest.isResourceOf {request : S3IdentityPolicyRequest}
    {evaluated : S3PolicyEvaluationRequest} (h : request.evaluationRequest = some evaluated) :
    IsResourceOf evaluated.action.scope evaluated.resource := by
  rw [evaluationRequest] at h
  split at h
  · exact absurd h (by simp)
  · next hformed =>
      obtain ⟨resource, hresource, rfl⟩ := Option.map_eq_some_iff.1 h
      have hscope : request.action.scope = request.resource.scope := by
        by_contra hne
        exact hformed (Or.inl hne)
      show IsResourceOf request.action.scope resource
      rw [hscope]
      cases htarget : request.resource with
      | account =>
          rw [htarget] at hresource
          cases hresource
          exact .account
      | bucket bucket =>
          rw [htarget, resourceText] at hresource
          split at hresource
          · next hbucket =>
              cases hresource
              exact .bucket hbucket
          · exact absurd hresource (by simp)
      | object bucket key =>
          rw [htarget, resourceText] at hresource
          split at hresource
          · next hobject =>
              rw [Bool.and_eq_true] at hobject
              cases hresource
              exact .object hobject.1 hobject.2
          · exact absurd hresource (by simp)

/-- `arn.strip_prefix("arn:aws:iam::")?.strip_suffix(":root")`. -/
def rootArnAccount (arn : Text) : Option Text :=
  (arn.dropPrefix? "arn:aws:iam::".toList).bind fun rest =>
    (rest.reverse.dropPrefix? ":root".toList.reverse).map List.reverse

def awsPrincipalMatches (principal : S3AwsPrincipal) (request : S3PolicyRequestContext) : Bool :=
  match principal with
  | .any => true
  | .account account => request.principalAccount == some account
  | .arn arn =>
      request.principalArn == some arn ||
        (rootArnAccount arn).any fun account => request.principalAccount == some account

def principalMatchesValue (principal : S3PolicyPrincipal) (request : S3PolicyRequestContext) :
    Bool :=
  match principal with
  | .any => true
  | .aws principals => principals.any fun principal => awsPrincipalMatches principal request

def principalMatches (clause : S3PrincipalClause) (request : S3PolicyRequestContext) : Bool :=
  match clause with
  | .principal principal => principalMatchesValue principal request
  | .notPrincipal principal => !principalMatchesValue principal request

def resourceClauseMatches (clause : S3ResourceClause) (resource : Text) : Bool :=
  match clause with
  | .resource patterns => patterns.any fun pattern => globMatches pattern resource false
  | .notResource patterns => !patterns.any fun pattern => globMatches pattern resource false

def conditionStringValue (key : S3ConditionKey) (request : S3PolicyRequestContext) :
    Option Text :=
  match key with
  | .principalArn => request.principalArn
  | .userId => request.userid
  | .keyPrefix => request.query.keyPrefix
  | .delimiter => request.query.delimiter
  | .versionId => request.versionId
  | _ => none

def conditionBoolValue (key : S3ConditionKey) (request : S3PolicyRequestContext) : Option Bool :=
  if key = .secureTransport then some request.secureTransport else none

def conditionKeyIsPresent (key : S3ConditionKey) (request : S3PolicyRequestContext) : Bool :=
  match key with
  | .secureTransport => true
  | .sourceIp => request.sourceIp.isSome
  | .principalArn => request.principalArn.isSome
  | .userId => request.userid.isSome
  | .keyPrefix => request.query.keyPrefix.isSome
  | .delimiter => request.query.delimiter.isSome
  | .maxKeys => request.query.maxKeys.isSome
  | .versionId => request.versionId.isSome

namespace S3PolicyCondition

def stringValuesAny (self : S3PolicyCondition) (predicate : Text → Bool) : Bool :=
  self.values.any fun value =>
    match value with
    | .string value => predicate value
    | _ => false

def stringValuesAll (self : S3PolicyCondition) (predicate : Text → Bool) : Bool :=
  self.values.all fun value =>
    match value with
    | .string value => predicate value
    | _ => false

def «matches» (self : S3PolicyCondition) (request : S3PolicyRequestContext) : Bool :=
  match self.operator with
  | .null =>
      let expectedAbsent := self.values.any fun value => value == .bool true
      (!conditionKeyIsPresent self.key request) == expectedAbsent
  | .stringEquals =>
      (conditionStringValue self.key request).any fun actual =>
        self.stringValuesAny fun expected => actual == expected
  | .stringNotEquals =>
      (conditionStringValue self.key request).all fun actual =>
        self.stringValuesAll fun expected => actual != expected
  | .stringLike =>
      (conditionStringValue self.key request).any fun actual =>
        self.stringValuesAny fun pattern => globMatches pattern actual false
  | .stringNotLike =>
      (conditionStringValue self.key request).all fun actual =>
        self.stringValuesAll fun pattern => !globMatches pattern actual false
  | .bool =>
      (conditionBoolValue self.key request).any fun actual =>
        self.values.any fun expected =>
          match expected with
          | .bool value => value == actual
          | _ => false
  | .ipAddress =>
      request.sourceIp.any fun actual =>
        self.values.any fun expected =>
          match expected with
          | .ip network => network.contains actual
          | _ => false
  | .notIpAddress =>
      request.sourceIp.all fun actual =>
        self.values.all fun expected =>
          match expected with
          | .ip network => !network.contains actual
          | _ => false
  | .numericLessThanEquals =>
      request.query.maxKeys.any fun actual =>
        self.values.any fun expected =>
          match expected with
          | .unsigned limit => decide (actual ≤ limit)
          | _ => false

end S3PolicyCondition

def S3PolicyStatement.«matches» (self : S3PolicyStatement) (request : S3PolicyEvaluationRequest) :
    Bool :=
  principalMatches self.principal request.toS3PolicyRequestContext &&
    actionClauseMatches self.actions request.action &&
    resourceClauseMatches self.resources request.resource &&
    self.conditions.all fun condition => condition.matches request.toS3PolicyRequestContext

def S3IdentityPolicyStatement.«matches» (self : S3IdentityPolicyStatement)
    (request : S3PolicyEvaluationRequest) : Bool :=
  actionClauseMatches self.actions request.action &&
    resourceClauseMatches self.resources request.resource &&
    self.conditions.all fun condition => condition.matches request.toS3PolicyRequestContext

/-- The loop over the statements; `allowed` says whether one of those before allows. -/
def evaluateStatements {α : Type} (doesMatch : α → Bool) (effect : α → S3PolicyEffect)
    (allowed : Bool) : List α → S3PolicyDecision
  | [] => if allowed then .allow else .implicitDeny
  | statement :: statements =>
      if !doesMatch statement then evaluateStatements doesMatch effect allowed statements
      else
        match effect statement with
        | .deny => .explicitDeny
        | .allow => evaluateStatements doesMatch effect true statements

def S3BucketPolicy.evaluate (self : S3BucketPolicy) (request : S3PolicyRequest) :
    S3PolicyDecision :=
  if request.bucket ≠ self.targetBucket then .implicitDeny
  else
    match request.evaluationRequest with
    | none => .implicitDeny
    | some request =>
        evaluateStatements (fun statement => statement.matches request) (·.effect) false
          self.statements

def S3IdentityPolicy.evaluate (self : S3IdentityPolicy) (request : S3IdentityPolicyRequest) :
    S3PolicyDecision :=
  match request.evaluationRequest with
  | none => .implicitDeny
  | some request =>
      evaluateStatements (fun statement => statement.matches request) (·.effect) false
        self.statements

variable {α : Type} {doesMatch : α → Bool} {effect : α → S3PolicyEffect}

theorem evaluateStatements_eq_explicitDeny_iff {allowed : Bool} {statements : List α} :
    evaluateStatements doesMatch effect allowed statements = .explicitDeny ↔
      ∃ statement ∈ statements, doesMatch statement = true ∧ effect statement = .deny := by
  induction statements generalizing allowed with
  | nil => cases allowed <;> simp [evaluateStatements]
  | cons statement statements ih =>
      rw [evaluateStatements]
      cases hmatch : doesMatch statement with
      | false => simp [ih, hmatch]
      | true =>
          cases heffect : effect statement with
          | deny => simp [hmatch, heffect]
          | allow => simp [ih, hmatch, heffect]

theorem evaluateStatements_eq_allow_iff {allowed : Bool} {statements : List α} :
    evaluateStatements doesMatch effect allowed statements = .allow ↔
      (¬ ∃ statement ∈ statements, doesMatch statement = true ∧ effect statement = .deny) ∧
        (allowed = true ∨
          ∃ statement ∈ statements, doesMatch statement = true ∧ effect statement = .allow) := by
  induction statements generalizing allowed with
  | nil => cases allowed <;> simp [evaluateStatements]
  | cons statement statements ih =>
      rw [evaluateStatements]
      cases hmatch : doesMatch statement with
      | false => simp [ih, hmatch]
      | true =>
          cases heffect : effect statement with
          | deny => simp [hmatch, heffect]
          | allow => simp [ih, hmatch, heffect]

/-- Three decisions, and no more. -/
theorem eq_implicitDeny_iff {decision : S3PolicyDecision} :
    decision = .implicitDeny ↔ decision ≠ .explicitDeny ∧ decision ≠ .allow := by
  cases decision <;> simp

end MediaHub.Policy

import MediaHub.Policy.Authorization

namespace MediaHub.Policy

/-- The parts of an ARN that the service admits. -/
theorem parts_of_validatePrincipalArn {arn account : Text}
    (h : validatePrincipalArn arn account = .ok ()) :
    Utf8.byteLength arn ≤ maxS3PolicyStringBytes ∧
      ∃ service name, Text.splitN ':' 6 arn =
          ["arn".toList, "aws".toList, service, [], account, name] ∧
        (service = "iam".toList ∨ service = "sts".toList) ∧ validAccountId account = true ∧
        validPrincipalResource service name = true := by
  rw [validatePrincipalArn] at h
  split at h
  · cases h
  · next hlength =>
      refine ⟨Nat.le_of_not_lt hlength, ?_⟩
      split at h
      · next start partition service region owner name hsplit =>
          split at h
          · cases h
          · next hparts =>
              split at h
              · cases h
              · next howner =>
                  split at h
                  · next hresource =>
                      simp only [not_or, ne_eq, not_not, not_and_or, Bool.not_eq_false] at hparts
                      obtain ⟨rfl, rfl, hservice, rfl, hlen, hdigits⟩ := hparts
                      obtain rfl : owner = account := not_not.1 howner
                      refine ⟨service, name, hsplit, hservice, ?_, hresource⟩
                      rw [validAccountId, hlen, hdigits]
                      rfl
                  · cases h
      · cases h

/-- An ARN that the service admits is one that the policies admit. -/
theorem validRuntimePrincipalArn_of_validatePrincipalArn {arn account : Text}
    (h : validatePrincipalArn arn account = .ok ()) : validRuntimePrincipalArn arn = true := by
  obtain ⟨hlength, service, name, hsplit, hservice, haccount, hresource⟩ :=
    parts_of_validatePrincipalArn h
  have hvalid : validPrincipalParts (Text.splitN ':' 6 arn) = true := by
    rw [hsplit]
    rw [validPrincipalResource] at hresource
    simp only [validPrincipalParts, haccount, beq_self_eq_true, List.isEmpty_nil, Bool.true_and,
      Bool.and_true]
    rcases hservice with rfl | rfl
    · simpa [Bool.or_assoc] using hresource
    · simpa using hresource
  have hcolon : ':' ∈ arn := by
    by_contra hnot
    rw [Text.splitN, Text.splitOnce_eq_none_iff.2 hnot] at hsplit
    simp at hsplit
  have hstar : arn ≠ "*".toList := by
    rintro rfl
    exact absurd hcolon (by decide)
  have hnumber : ¬ validAccountId arn = true := by
    intro hnumber
    rw [validAccountId, Bool.and_eq_true] at hnumber
    exact absurd (List.all_eq_true.1 hnumber.2 ':' hcolon) (by decide)
  have hparse : parseAwsPrincipal arn = .ok (.arn arn) := by
    rw [parseAwsPrincipal, if_neg hstar, if_neg hnumber, if_neg]
    simp [hvalid, hlength]
  rw [validRuntimePrincipalArn, hparse]

theorem S3SignedPrincipal.context_wellFormed (principal : S3SignedPrincipal) :
    validRuntimePrincipalArn principal.principalArn = true ∧
      validAccountId principal.accountId.value = true ∧ validUserid principal.userid = true :=
  ⟨validRuntimePrincipalArn_of_validatePrincipalArn principal.validArn,
    principal.accountId.valid, principal.validUser⟩

/-- What the service takes for well formed, the bucket's policy does too. -/
theorem exists_evaluationRequest {request : S3AuthorizationRequest}
    (h : requestIsWellFormed request = true) :
    ∃ evaluated, (corePolicyRequest request).evaluationRequest = some evaluated := by
  simp only [requestIsWellFormed, bounded, Bool.and_eq_true] at h
  obtain ⟨⟨⟨⟨hbucket, hresource⟩, hversion⟩, hkeys⟩, hdelimiter⟩ := h
  have hcontext : requestContextIsWellFormed
      (corePolicyRequest request).toS3PolicyRequestContext = true := by
    simp only [requestContextIsWellFormed, corePolicyRequest, Bool.and_eq_true]
    refine ⟨⟨⟨⟨⟨?_, ?_⟩, ?_⟩, hversion⟩, hkeys⟩, hdelimiter⟩
    · cases request.principal with
      | anonymous => rfl
      | signed principal => exact principal.context_wellFormed.1
    · cases request.principal with
      | anonymous => rfl
      | signed principal => exact principal.context_wellFormed.2.1
    · cases request.principal with
      | anonymous => rfl
      | signed principal => exact principal.context_wellFormed.2.2
  cases hkey : request.objectKey with
  | none =>
      rw [hkey] at hresource
      cases hscope : request.action.scope with
      | bucket =>
          exact ⟨_, S3PolicyRequest.evaluationRequest_eq_some_iff.2
            ⟨hcontext, hbucket, Or.inl ⟨hkey, hscope, rfl⟩⟩⟩
      | account | object => simp [hscope] at hresource
  | some key =>
      rw [hkey] at hresource
      cases hscope : request.action.scope with
      | object =>
          rw [hscope] at hresource
          exact ⟨_, S3PolicyRequest.evaluationRequest_eq_some_iff.2
            ⟨hcontext, hbucket, Or.inr ⟨key, hkey, hresource, hscope, rfl⟩⟩⟩
      | account | bucket => simp [hscope] at hresource

/-- The policy of the access key sees the very request that the policy of the bucket sees. -/
theorem exists_identityRequest {input : S3DataAuthorizationInput} {principal : S3SignedPrincipal}
    {evaluated : S3PolicyEvaluationRequest}
    (h : (corePolicyRequest (authorizationRequest input (.signed principal))).evaluationRequest =
      some evaluated) :
    ∃ request, s3IdentityPolicyRequest input principal.principalArn principal.accountId.value
        principal.userid = some request ∧ request.evaluationRequest = some evaluated := by
  obtain ⟨hcontext, hbucket, hcases⟩ := S3PolicyRequest.evaluationRequest_eq_some_iff.1 h
  rcases hcases with ⟨hkey, hscope, rfl⟩ | ⟨key, hkey, hvalid, hscope, rfl⟩
  · have hkey : input.objectKey = none := hkey
    have hscope : input.action.scope = .bucket := hscope
    have hbucket : validBucketName input.bucketName = true := hbucket
    refine ⟨{ corePolicyRequest (authorizationRequest input (.signed principal)) with
      resource := .bucket input.bucketName }, ?_, ?_⟩
    · rw [s3IdentityPolicyRequest, s3IdentityPolicyResource, hscope, hkey]
      rfl
    · rw [S3IdentityPolicyRequest.evaluationRequest, if_neg]
      · rw [S3IdentityPolicyRequest.resourceText, if_pos hbucket]
        rfl
      · rintro (hne | hnot)
        · exact hne hscope
        · simp [hcontext] at hnot
  · have hkey : input.objectKey = some key := hkey
    have hscope : input.action.scope = .object := hscope
    have hbucket : validBucketName input.bucketName = true := hbucket
    refine ⟨{ corePolicyRequest (authorizationRequest input (.signed principal)) with
      resource := .object input.bucketName key }, ?_, ?_⟩
    · rw [s3IdentityPolicyRequest, s3IdentityPolicyResource, hscope, hkey]
      rfl
    · rw [S3IdentityPolicyRequest.evaluationRequest, if_neg]
      · rw [S3IdentityPolicyRequest.resourceText, if_pos (by simp [hbucket, hvalid])]
        rfl
      · rintro (hne | hnot)
        · exact hne hscope
        · simp [hcontext] at hnot

theorem principal_of_load [Json.Parser] {document : Option Text} {accountId : S3AccountId}
    {accessKeyId : Text} {input : S3DataAuthorizationInput} {principal : S3SignedPrincipal}
    (h : loadS3SignedPolicyPrincipal document accountId accessKeyId input = .ok principal) :
    principal.accountId = accountId ∧ principal.principalArn = accessKeyArn accountId accessKeyId ∧
      principal.userid = accessKeyId ∧
      principal.identityDecision =
        evaluateIdentityPolicy document accountId accessKeyId input := by
  rw [loadS3SignedPolicyPrincipal, S3SignedPrincipal.new] at h
  split at h
  · cases h
  · split at h
    · cases h
      exact ⟨rfl, rfl, rfl, rfl⟩
    · cases h

/-- A bucket's policy that is there has been read, and its verdict is no denial. -/
structure BucketVerdict [Json.Parser] (snapshot : S3BucketPolicySnapshot)
    (request : S3AuthorizationRequest) (decision : S3PolicyDecision) : Prop where
  decided : evaluateBucketPolicy snapshot (corePolicyRequest request) = .decision decision
  notDenied : decision ≠ .explicitDeny

theorem authorize_eq_allowed [Json.Parser] {snapshot : S3BucketPolicySnapshot}
    {request : S3AuthorizationRequest} {bucket : S3BucketIdentity}
    (h : authorize (some snapshot) request = .ok (.allowed bucket)) :
    snapshot.identity.bucketName = request.bucketName ∧
      identityDecisionOf request.principal ≠ .explicitDeny ∧
      requestIsWellFormed request = true ∧
      ∃ decision, BucketVerdict snapshot request decision ∧
        isAllowed request.principal snapshot.identity.ownerAccountId decision = true := by
  rw [authorize] at h
  split at h
  · cases h
  · next hname =>
      split at h
      · cases h
      · next hidentity =>
          split at h
          · cases h
          · next hformed =>
              split at h
              · cases h
              · next decision hdecision =>
                  split at h
                  · cases h
                  · next hdeny =>
                      split at h
                      · next hallowed =>
                          exact ⟨not_not.1 hname, hidentity, by simpa using hformed, decision,
                            ⟨hdecision, hdeny⟩, hallowed⟩
                      · cases h

/-- The statements of the policy that is kept for a bucket. -/
def bucketStatements [Json.Parser] (snapshot : S3BucketPolicySnapshot) : List S3PolicyStatement :=
  match snapshot.policy with
  | none => []
  | some document =>
      match S3BucketPolicy.parse (Json.render document) snapshot.identity.bucketName with
      | .error _ => []
      | .ok policy => policy.statements

/-- The statements of the policy that is kept for a caller. -/
def identityStatements [Json.Parser] : Caller → List S3IdentityPolicyStatement
  | .anonymous => []
  | .signed _ _ none => []
  | .signed _ _ (some document) =>
      match S3IdentityPolicy.parse document with
      | .error _ => []
      | .ok policy => policy.statements

/-- Some statement with the effect holds of the request. -/
def BucketSays [Json.Parser] (snapshot : S3BucketPolicySnapshot) (effect : S3PolicyEffect)
    (request : S3PolicyEvaluationRequest) : Prop :=
  ∃ statement ∈ bucketStatements snapshot, statement.Holds request ∧ statement.effect = effect

def IdentitySays [Json.Parser] (caller : Caller) (effect : S3PolicyEffect)
    (request : S3PolicyEvaluationRequest) : Prop :=
  ∃ statement ∈ identityStatements caller, statement.Holds request ∧ statement.effect = effect

theorem callsFor_of_bucketVerdict [Json.Parser] {snapshot : S3BucketPolicySnapshot}
    {request : S3AuthorizationRequest} {decision : S3PolicyDecision}
    {evaluated : S3PolicyEvaluationRequest}
    (hname : snapshot.identity.bucketName = request.bucketName)
    (hrequest : (corePolicyRequest request).evaluationRequest = some evaluated)
    (h : evaluateBucketPolicy snapshot (corePolicyRequest request) = .decision decision) :
    CallsFor (·.Holds evaluated) (·.effect) (bucketStatements snapshot) decision := by
  rw [evaluateBucketPolicy] at h
  rw [bucketStatements]
  cases hpolicy : snapshot.policy with
  | none =>
      rw [hpolicy] at h
      cases h
      simp [CallsFor]
  | some document =>
      rw [hpolicy] at h
      simp only at h ⊢
      cases hparse : S3BucketPolicy.parse (Json.render document) snapshot.identity.bucketName with
      | error e => rw [hparse] at h; cases h
      | ok policy =>
          rw [hparse] at h
          obtain ⟨htarget, hparsed⟩ := S3BucketPolicy.of_parse hparse
          have hbucket : (corePolicyRequest request).bucket = policy.targetBucket := by
            rw [htarget, hname]
            rfl
          exact (S3BucketPolicy.evaluate_eq_iff
            (fun statement hmem => (hparsed statement hmem).isTyped) hbucket hrequest decision).1
            (BucketPolicyEvaluation.decision.inj h)

theorem callsFor_of_identity [Json.Parser] {document : Option Text} {accountId : S3AccountId}
    {accessKeyId : Text} {input : S3DataAuthorizationInput} {request : S3IdentityPolicyRequest}
    {evaluated : S3PolicyEvaluationRequest}
    (hbuilt : s3IdentityPolicyRequest input (accessKeyArn accountId accessKeyId) accountId.value
      accessKeyId = some request) (hrequest : request.evaluationRequest = some evaluated) :
    CallsFor (·.Holds evaluated) (·.effect)
      (identityStatements (.signed accountId accessKeyId document))
      (evaluateIdentityPolicy document accountId accessKeyId input) := by
  cases document with
  | none => simp [CallsFor, identityStatements, evaluateIdentityPolicy]
  | some document =>
      rw [identityStatements, evaluateIdentityPolicy]
      cases hparse : S3IdentityPolicy.parse document with
      | error e => simp [CallsFor]
      | ok policy =>
          simp only [hbuilt]
          exact (S3IdentityPolicy.evaluate_eq_iff
            (fun statement hmem => (S3IdentityPolicy.of_parse hparse statement hmem).isTyped)
            hrequest _).1 rfl

theorem not_deny_of_callsFor {α : Type} {holds : α → Prop} {effect : α → S3PolicyEffect}
    {statements : List α} {decision : S3PolicyDecision}
    (h : CallsFor holds effect statements decision) (hdecision : decision ≠ .explicitDeny) :
    ¬ ∃ statement ∈ statements, holds statement ∧ effect statement = .deny := by
  cases decision with
  | explicitDeny => exact absurd rfl hdecision
  | allow => exact h.1
  | implicitDeny =>
      rintro ⟨statement, hmem, hholds, _⟩
      exact h ⟨statement, hmem, hholds⟩

theorem allow_of_callsFor {α : Type} {holds : α → Prop} {effect : α → S3PolicyEffect}
    {statements : List α} {decision : S3PolicyDecision}
    (h : CallsFor holds effect statements decision) (hdecision : decision = .allow) :
    ∃ statement ∈ statements, holds statement ∧ effect statement = .allow := by
  subst hdecision
  exact h.2

/-- Which policies have to allow what a caller asks for. -/
def AllowedBy [Json.Parser] (caller : Caller) (snapshot : S3BucketPolicySnapshot)
    (request : S3PolicyEvaluationRequest) : Prop :=
  match caller with
  | .anonymous => BucketSays snapshot .allow request
  | .signed accountId _ _ =>
      if accountId = snapshot.identity.ownerAccountId then
        IdentitySays caller .allow request ∨ BucketSays snapshot .allow request
      else IdentitySays caller .allow request ∧ BucketSays snapshot .allow request

theorem policy_parsed_of_verdict [Json.Parser] {snapshot : S3BucketPolicySnapshot}
    {request : S3PolicyRequest} {decision : S3PolicyDecision}
    (h : evaluateBucketPolicy snapshot request = .decision decision) :
    ∀ document, snapshot.policy = some document →
      ∃ policy, S3BucketPolicy.parse (Json.render document) snapshot.identity.bucketName =
        .ok policy := by
  intro document hdocument
  rw [evaluateBucketPolicy, hdocument] at h
  cases hparse : S3BucketPolicy.parse (Json.render document) snapshot.identity.bucketName with
  | ok policy => exact ⟨policy, rfl⟩
  | error e =>
      simp only [hparse] at h
      cases h

/-- What the policies say of the request that a principal makes, when it is allowed. -/
structure Permitted [Json.Parser] (caller : Caller) (input : S3DataAuthorizationInput)
    (snapshot : S3BucketPolicySnapshot) (principal : S3AuthorizationPrincipal)
    (evaluated : S3PolicyEvaluationRequest) : Prop where
  loaded : caller.principal input = some principal
  seen : (corePolicyRequest (authorizationRequest input principal)).evaluationRequest =
    some evaluated
  notDeniedByCaller : ¬ IdentitySays caller .deny evaluated
  notDeniedByBucket : ¬ BucketSays snapshot .deny evaluated
  allowed : AllowedBy caller snapshot evaluated

theorem permitted_anonymous [Json.Parser] {input : S3DataAuthorizationInput}
    {snapshot : S3BucketPolicySnapshot} {bucket : S3BucketIdentity}
    (h : authorize (some snapshot) (authorizationRequest input .anonymous) =
      .ok (.allowed bucket)) :
    ∃ evaluated, Permitted .anonymous input snapshot .anonymous evaluated := by
  obtain ⟨hname, _, hformed, decision, hverdict, hallowed⟩ := authorize_eq_allowed h
  obtain ⟨evaluated, hrequest⟩ := exists_evaluationRequest hformed
  have hbucket := callsFor_of_bucketVerdict hname hrequest hverdict.decided
  refine ⟨evaluated, rfl, hrequest, ?_, not_deny_of_callsFor hbucket hverdict.notDenied, ?_⟩
  · rintro ⟨statement, hmem, _⟩
    exact absurd hmem (by simp [identityStatements])
  · exact allow_of_callsFor hbucket (beq_iff_eq.1 hallowed)

theorem permitted_signed [Json.Parser] {input : S3DataAuthorizationInput}
    {snapshot : S3BucketPolicySnapshot} {bucket : S3BucketIdentity} {accountId : S3AccountId}
    {accessKeyId : Text} {document : Option Text} {principal : S3SignedPrincipal}
    (hload : loadS3SignedPolicyPrincipal document accountId accessKeyId input = .ok principal)
    (h : authorize (some snapshot) (authorizationRequest input (.signed principal)) =
      .ok (.allowed bucket)) :
    ∃ evaluated, Permitted (.signed accountId accessKeyId document) input snapshot
      (.signed principal) evaluated := by
  obtain ⟨haccount, harn, huser, hidentity⟩ := principal_of_load hload
  obtain ⟨hname, hnotDenied, hformed, decision, hverdict, hallowed⟩ := authorize_eq_allowed h
  obtain ⟨evaluated, hrequest⟩ := exists_evaluationRequest hformed
  have hbucket := callsFor_of_bucketVerdict hname hrequest hverdict.decided
  obtain ⟨built, hbuilt, hsame⟩ := exists_identityRequest hrequest
  rw [haccount, harn, huser] at hbuilt
  have hcalls := @callsFor_of_identity _ document _ _ _ _ _ hbuilt hsame
  rw [← hidentity] at hcalls
  have hprincipal : (Caller.signed accountId accessKeyId document).principal input =
      some (.signed principal) := by
    rw [Caller.principal, hload]
  refine ⟨evaluated, hprincipal, hrequest, not_deny_of_callsFor hcalls hnotDenied,
    not_deny_of_callsFor hbucket hverdict.notDenied, ?_⟩
  have hallowed : (if principal.accountId = snapshot.identity.ownerAccountId then
      principal.identityDecision == .allow || decision == .allow
      else principal.identityDecision == .allow && decision == .allow) = true := hallowed
  rw [haccount] at hallowed
  rw [AllowedBy]
  split at hallowed
  · next howner =>
      rw [if_pos howner]
      rw [Bool.or_eq_true, beq_iff_eq, beq_iff_eq] at hallowed
      exact hallowed.imp (allow_of_callsFor hcalls) (allow_of_callsFor hbucket)
  · next howner =>
      rw [if_neg howner]
      rw [Bool.and_eq_true, beq_iff_eq, beq_iff_eq] at hallowed
      exact hallowed.imp (allow_of_callsFor hcalls) (allow_of_callsFor hbucket)

/-- What is allowed was denied by neither policy and allowed by those that have to allow it, each
of which saw the request; a bucket whose policy cannot be read allows nothing. -/
theorem permitted_of_allowed [Json.Parser] (caller : Caller) (input : S3DataAuthorizationInput)
    (snapshot : S3BucketPolicySnapshot) (bucket : S3BucketIdentity)
    (h : authorizeS3DataRequest caller input (some snapshot) = some (.ok (.allowed bucket))) :
    (∀ document, snapshot.policy = some document →
        ∃ policy, S3BucketPolicy.parse (Json.render document) snapshot.identity.bucketName =
          .ok policy) ∧
      ∃ principal evaluated, Permitted caller input snapshot principal evaluated := by
  obtain ⟨principal, hprincipal, h⟩ := Option.map_eq_some_iff.1 h
  obtain ⟨_, _, _, decision, hverdict, _⟩ := authorize_eq_allowed h
  refine ⟨policy_parsed_of_verdict hverdict.decided, principal, ?_⟩
  cases caller with
  | anonymous =>
      cases hprincipal
      exact permitted_anonymous h
  | signed accountId accessKeyId document =>
      rw [Caller.principal] at hprincipal
      cases hload : loadS3SignedPolicyPrincipal document accountId accessKeyId input with
      | error e => rw [hload] at hprincipal; cases hprincipal
      | ok found =>
          rw [hload] at hprincipal
          cases hprincipal
          exact permitted_signed hload h

local instance : Json.Parser := Json.descent

/-- A bucket that anybody may read and nobody may delete from. -/
def sharedBucket : S3BucketPolicySnapshot :=
  { identity :=
      { bucketId := 1, applicationId := 1, bucketName := "photos-prod".toList
        ownerAccountId := { value := "123456789012".toList, valid := by decide } }
    policy := some (.object
      [("Statement".toList, .array
          [.object [textField "Action" "s3:DeleteObject", textField "Effect" "Deny",
              textField "Principal" "*", textField "Resource" "arn:aws:s3:::photos-prod/*"],
            .object [textField "Action" "s3:GetObject", textField "Effect" "Allow",
              textField "Principal" "*", textField "Resource" "arn:aws:s3:::photos-prod/*"]]),
        textField "Version" "2012-10-17"]) }

def sharedRead : S3DataAuthorizationInput :=
  { action := .getObject, bucketName := "photos-prod".toList, objectKey := some "a".toList
    versionId := none, keyPrefix := none, delimiter := none, maxKeys := none
    secureTransport := true, sourceIp := none }

/-- A caller of another account, with the policy that is kept for its key. -/
def visitor (document : Option Text) : Caller :=
  .signed { value := "210987654321".toList, valid := by decide } "AKIAVISITOR".toList document

def visitorDocument : Text :=
  Json.render (.object
    [("Statement".toList, .object
        [textField "Action" "s3:Get*", textField "Effect" "Allow",
          textField "Resource" "arn:aws:s3:::photos-prod/*"]),
      textField "Version" "2012-10-17"])

/-- Both policies allow what the visitor reads; without a policy of its own it may not read. -/
theorem permitted_of_allowed_visitor :
    authorizeS3DataRequest (visitor none) sharedRead (some sharedBucket) =
      some (.ok (.implicitDeny sharedBucket.identity)) ∧
    ∃ principal evaluated,
      Permitted (visitor (some visitorDocument)) sharedRead sharedBucket principal evaluated ∧
      IdentitySays (visitor (some visitorDocument)) .allow evaluated ∧
      BucketSays sharedBucket .allow evaluated := by
  obtain ⟨-, principal, evaluated, hpermitted⟩ := permitted_of_allowed
    (visitor (some visitorDocument)) sharedRead sharedBucket sharedBucket.identity
    (by decide +kernel)
  have hboth := hpermitted.allowed
  rw [visitor, AllowedBy, if_neg (by decide)] at hboth
  exact ⟨by decide +kernel, principal, evaluated, hpermitted, hboth⟩

end MediaHub.Policy

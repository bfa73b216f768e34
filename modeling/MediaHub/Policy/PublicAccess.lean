import MediaHub.Policy.Reference

namespace MediaHub.Policy

def principalMatchesEverybody (principal : S3PolicyPrincipal) : Bool :=
  match principal with
  | .any => true
  | .aws principals => principals.any (· == .any)

def principalClauseMatchesNobody (clause : S3PrincipalClause) : Bool :=
  match clause with
  | .notPrincipal principal => principalMatchesEverybody principal
  | .principal _ => false

def principalArnAccount (arn : Text) : Option Text :=
  match Text.splitN ':' 6 arn with
  | start :: partition :: service :: region :: account :: _ =>
      if start == "arn".toList && partition == "aws".toList &&
          (service == "iam".toList || service == "sts".toList) && region.isEmpty &&
          validAccountId account then
        some account
      else none
  | _ => none

def principalIsTrusted (principal : S3AwsPrincipal) (owningAccountId : Text) : Bool :=
  match principal with
  | .any => false
  | .account account => account == owningAccountId
  | .arn arn => principalArnAccount arn == some owningAccountId

def principalClauseIsTrusted (clause : S3PrincipalClause) (owningAccountId : Text) : Bool :=
  match clause with
  | .principal .any => false
  | .principal (.aws principals) =>
      principals.all fun principal => principalIsTrusted principal owningAccountId
  | .notPrincipal _ => false

def conditionRestrictsToTrustedPrincipals (condition : S3PolicyCondition)
    (owningAccountId : Text) : Bool :=
  if condition.key ≠ .principalArn ∨
      ¬ (condition.operator = .stringEquals ∨ condition.operator = .stringLike) then false
  else
    condition.values.all fun value =>
      match value with
      | .string arn =>
          !arn.contains '*' && !arn.contains '?' && validRuntimePrincipalArn arn &&
            principalArnAccount arn == some owningAccountId
      | _ => false

/-- A network of a single address. -/
def IpNetwork.isSingle (network : IpNetwork) : Bool :=
  match network.network with
  | .v4 _ => network.prefixLen == 32
  | .v6 _ => network.prefixLen == 128

def conditionRestrictsToExactSourceIps (condition : S3PolicyCondition) : Bool :=
  condition.key == .sourceIp && condition.operator == .ipAddress &&
    condition.values.all fun value =>
      match value with
      | .ip network => network.isSingle
      | _ => false

def statementMayGrantPublicAccess (statement : S3PolicyStatement) (owningAccountId : Text) :
    Bool :=
  if principalClauseMatchesNobody statement.principal then false
  else if principalClauseIsTrusted statement.principal owningAccountId then false
  else if statement.conditions.any fun condition =>
      conditionRestrictsToTrustedPrincipals condition owningAccountId then false
  else if statement.conditions.any conditionRestrictsToExactSourceIps then false
  else true

structure S3BucketPolicyStatus where
  isPublic : Bool

def S3BucketPolicy.policyStatus (self : S3BucketPolicy) (owningAccountId : Text) :
    S3BucketPolicyStatus :=
  let allowStatements := self.statements.filter fun statement => statement.effect == .allow
  if allowStatements.isEmpty then { isPublic := false }
  else if !validAccountId owningAccountId then { isPublic := true }
  else
    { isPublic := allowStatements.any fun statement =>
        statementMayGrantPublicAccess statement owningAccountId }

/-- The ARN of the caller names the caller's account. -/
def S3PolicyRequestContext.ArnOfAccount (request : S3PolicyRequestContext) : Prop :=
  ∀ arn, request.principalArn = some arn → request.principalAccount = principalArnAccount arn

/-- The statement lists the caller's address, alone, among the addresses that it admits. -/
def S3PolicyStatement.ListsAddress (statement : S3PolicyStatement) (address : IpAddr) : Prop :=
  ∃ condition ∈ statement.conditions, condition.operator = .ipAddress ∧
    ∃ network : IpNetwork, .ip network ∈ condition.values ∧ network.isSingle = true ∧
      address = network.network

variable {request : S3PolicyRequestContext} {owningAccountId : Text}

theorem principalArnAccount_of_root {arn account : Text} (h : rootArnAccount arn = some account)
    (haccount : validAccountId account = true) : principalArnAccount arn = some account := by
  rw [rootArnAccount_eq_some_iff] at h
  have hcolon : ':' ∉ account := by
    intro hmem
    rw [validAccountId, Bool.and_eq_true] at haccount
    exact absurd (List.all_eq_true.1 haccount.2 ':' hmem) (by decide)
  have hsplit : Text.splitN ':' 6 arn =
      ["arn".toList, "aws".toList, "iam".toList, [], account, "root".toList] := by
    have harn : arn = "arn".toList ++ ':' :: ("aws".toList ++ ':' :: ("iam".toList ++
        ':' :: ([] ++ ':' :: (account ++ ':' :: "root".toList)))) := by
      rw [h, List.append_assoc]
      rfl
    rw [harn, Text.splitN_append (by decide), Text.splitN_append (by decide),
      Text.splitN_append (by decide), Text.splitN_append (by decide),
      Text.splitN_append hcolon, Text.splitN]
  rw [principalArnAccount, hsplit]
  simp [haccount]

theorem account_of_trusted_principal {principal : S3AwsPrincipal}
    (htrusted : principalIsTrusted principal owningAccountId = true)
    (hmatches : awsPrincipalMatches principal request = true)
    (harn : request.ArnOfAccount) (haccount : request.principalAccount.all validAccountId = true) :
    request.principalAccount = some owningAccountId := by
  cases principal with
  | any => exact absurd htrusted (by simp [principalIsTrusted])
  | account account =>
      rw [principalIsTrusted, beq_iff_eq] at htrusted
      rw [awsPrincipalMatches, beq_iff_eq] at hmatches
      rw [hmatches, htrusted]
  | arn arn =>
      rw [principalIsTrusted, beq_iff_eq] at htrusted
      rw [awsPrincipalMatches, Bool.or_eq_true, beq_iff_eq, Option.any_eq_true] at hmatches
      rcases hmatches with hsame | ⟨account, hroot, hsame⟩
      · rw [harn arn hsame, htrusted]
      · rw [beq_iff_eq] at hsame
        rw [hsame] at haccount ⊢
        rw [← htrusted, principalArnAccount_of_root hroot haccount]

theorem account_of_trusted_clause {clause : S3PrincipalClause}
    (htrusted : principalClauseIsTrusted clause owningAccountId = true)
    (hmatches : principalMatches clause request = true)
    (harn : request.ArnOfAccount) (haccount : request.principalAccount.all validAccountId = true) :
    request.principalAccount = some owningAccountId := by
  cases clause with
  | notPrincipal principal => exact absurd htrusted (by simp [principalClauseIsTrusted])
  | principal principal =>
      cases principal with
      | any => exact absurd htrusted (by simp [principalClauseIsTrusted])
      | aws principals =>
          obtain ⟨principal, hmem, hprincipal⟩ := List.any_eq_true.1 hmatches
          exact account_of_trusted_principal (List.all_eq_true.1 htrusted principal hmem)
            hprincipal harn haccount

theorem not_matches_of_matchesNobody {clause : S3PrincipalClause}
    (h : principalClauseMatchesNobody clause = true) :
    principalMatches clause request = false := by
  cases clause with
  | principal principal => exact absurd h (by simp [principalClauseMatchesNobody])
  | notPrincipal principal =>
      rw [principalMatches, Bool.not_eq_false']
      cases principal with
      | any => rfl
      | aws principals =>
          obtain ⟨principal, hmem, hany⟩ := List.any_eq_true.1 h
          rw [beq_iff_eq] at hany
          subst hany
          exact List.any_eq_true.2 ⟨_, hmem, rfl⟩

/-- A condition on exact ARNs of the owner's account admits the owner's principals alone. -/
theorem account_of_trusted_condition {condition : S3PolicyCondition}
    (htrusted : conditionRestrictsToTrustedPrincipals condition owningAccountId = true)
    (hmatches : condition.matches request = true) (harn : request.ArnOfAccount) :
    request.principalAccount = some owningAccountId := by
  obtain ⟨operator, key, values⟩ := condition
  rw [conditionRestrictsToTrustedPrincipals] at htrusted
  split at htrusted
  · exact absurd htrusted (by simp)
  · next hshape =>
      rw [not_or, not_not, not_not] at hshape
      obtain ⟨rfl, hoperator⟩ := hshape
      have hexact : ∃ arn, request.principalArn = some arn ∧
          principalArnAccount arn = some owningAccountId := by
        have hvalue {arn : Text} (hmem : .string arn ∈ values) := List.all_eq_true.1 htrusted _ hmem
        simp only [Bool.and_eq_true, Bool.not_eq_true', beq_iff_eq] at hvalue
        rcases hoperator with rfl | rfl
        · obtain ⟨actual, hactual, hany⟩ := (Option.any_eq_true _ _).1 hmatches
          obtain ⟨arn, hmem, heq⟩ := S3PolicyCondition.stringValuesAny_iff.1 hany
          obtain rfl : actual = arn := beq_iff_eq.1 heq
          exact ⟨actual, hactual, (hvalue hmem).2⟩
        · obtain ⟨actual, hactual, hany⟩ := (Option.any_eq_true _ _).1 hmatches
          obtain ⟨arn, hmem, hglobs⟩ := S3PolicyCondition.stringValuesAny_iff.1 hany
          obtain ⟨⟨⟨hstar, hone⟩, _⟩, haccount⟩ := hvalue hmem
          have hwildcard : ∀ c ∈ arn, isWildcard c = false := by
            intro c hc
            rw [isWildcard, Bool.or_eq_false_iff, beq_eq_false_iff_ne, beq_eq_false_iff_ne]
            refine ⟨?_, ?_⟩
            · rintro rfl
              simp [hc] at hstar
            · rintro rfl
              simp [hc] at hone
          rw [globMatches_iff, globs_iff_of_not_isWildcard hwildcard] at hglobs
          exact ⟨actual, hactual, hglobs ▸ haccount⟩
      obtain ⟨arn, hsome, haccount⟩ := hexact
      rw [harn arn hsome, haccount]

theorem listsAddress_of_exact_condition {condition : S3PolicyCondition}
    (hexact : conditionRestrictsToExactSourceIps condition = true)
    (hmatches : condition.matches request = true) :
    ∃ address, request.sourceIp = some address ∧ condition.operator = .ipAddress ∧
      ∃ network : IpNetwork, .ip network ∈ condition.values ∧ network.isSingle = true ∧
        address = network.network := by
  obtain ⟨operator, key, values⟩ := condition
  simp only [conditionRestrictsToExactSourceIps, Bool.and_eq_true, beq_iff_eq] at hexact
  obtain ⟨⟨rfl, rfl⟩, hall⟩ := hexact
  obtain ⟨address, haddress, hany⟩ := (Option.any_eq_true _ _).1 hmatches
  obtain ⟨value, hmem, hvalue⟩ := List.any_eq_true.1 hany
  cases value with
  | string | bool | unsigned => exact absurd hvalue (by simp)
  | ip network =>
      have hsingle : network.isSingle = true := List.all_eq_true.1 hall _ hmem
      refine ⟨address, haddress, rfl, network, hmem, hsingle, ?_⟩
      refine (IpNetwork.contains_iff_of_maxPrefix ?_ address).1 hvalue
      obtain ⟨start, prefixLen⟩ := network
      cases start with
      | v4 | v6 => exact beq_iff_eq.1 hsingle

/-- A statement that is not taken to grant public access matches the owner's principals and the
addresses that it lists. -/
theorem owner_or_listed_of_matches {statement : S3PolicyStatement}
    {request : S3PolicyEvaluationRequest}
    (hprivate : statementMayGrantPublicAccess statement owningAccountId = false)
    (hmatches : statement.matches request = true) (harn : request.ArnOfAccount)
    (haccount : request.principalAccount.all validAccountId = true) :
    request.principalAccount = some owningAccountId ∨
      ∃ address, request.sourceIp = some address ∧ statement.ListsAddress address := by
  simp only [S3PolicyStatement.matches, Bool.and_eq_true] at hmatches
  obtain ⟨⟨⟨hprincipal, _⟩, _⟩, hconditions⟩ := hmatches
  rw [List.all_eq_true] at hconditions
  rw [statementMayGrantPublicAccess] at hprivate
  split at hprivate
  · next hnobody =>
      rw [not_matches_of_matchesNobody hnobody] at hprincipal
      exact absurd hprincipal (by simp)
  · split at hprivate
    · next htrusted => exact Or.inl (account_of_trusted_clause htrusted hprincipal harn haccount)
    · split at hprivate
      · next htrusted =>
          obtain ⟨condition, hmem, hcondition⟩ := List.any_eq_true.1 htrusted
          exact Or.inl
            (account_of_trusted_condition hcondition (hconditions condition hmem) harn)
      · split at hprivate
        · next hexact =>
            obtain ⟨condition, hmem, hcondition⟩ := List.any_eq_true.1 hexact
            obtain ⟨address, haddress, hoperator, hlisted⟩ :=
              listsAddress_of_exact_condition hcondition (hconditions condition hmem)
            exact Or.inr ⟨address, haddress, condition, hmem, hoperator, hlisted⟩
        · exact absurd hprivate (by simp)

theorem exists_of_evaluate_eq_allow {policy : S3BucketPolicy} {request : S3PolicyRequest}
    (h : policy.evaluate request = .allow) :
    ∃ evaluated, request.evaluationRequest = some evaluated ∧
      ∃ statement ∈ policy.statements, statement.matches evaluated = true ∧
        statement.effect = .allow := by
  rw [S3BucketPolicy.evaluate] at h
  split at h
  · cases h
  · cases hrequest : request.evaluationRequest with
    | none => rw [hrequest] at h; cases h
    | some evaluated =>
        rw [hrequest] at h
        obtain ⟨_, hallow⟩ := evaluateStatements_eq_allow_iff.1 h
        exact ⟨evaluated, rfl, by simpa using hallow⟩

theorem not_public_statement {policy : S3BucketPolicy}
    (h : (policy.policyStatus owningAccountId).isPublic = false) {statement : S3PolicyStatement}
    (hmem : statement ∈ policy.statements) (hallow : statement.effect = .allow) :
    statementMayGrantPublicAccess statement owningAccountId = false := by
  have hfilter : statement ∈ policy.statements.filter fun statement =>
      statement.effect == .allow := List.mem_filter.2 ⟨hmem, by rw [hallow]; rfl⟩
  rw [S3BucketPolicy.policyStatus] at h
  simp only [List.isEmpty_iff] at h
  split at h
  · next hnil =>
      rw [hnil] at hfilter
      exact absurd hfilter (by simp)
  · split at h
    · exact absurd h (by simp)
    · rw [List.any_eq_false] at h
      exact Bool.eq_false_iff.2 (h statement hfilter)

/-- What a policy without public access allows: the principals of the owner, and the addresses that
its statements list one by one. -/
theorem policyStatus_sound (policy : S3BucketPolicy) (owningAccountId : Text)
    (hprivate : (policy.policyStatus owningAccountId).isPublic = false)
    (request : S3PolicyRequest) (harn : request.ArnOfAccount)
    (hallow : policy.evaluate request = .allow) :
    (request.principalAccount = some owningAccountId ∨
      ∃ address, request.sourceIp = some address ∧
        ∃ statement ∈ policy.statements, statement.ListsAddress address) ∧
      (request.principalArn = none → request.principalAccount = none →
        ∃ address, request.sourceIp = some address ∧
          ∃ statement ∈ policy.statements, statement.ListsAddress address) := by
  obtain ⟨evaluated, hrequest, statement, hmem, hmatches, heffect⟩ :=
    exists_of_evaluate_eq_allow hallow
  have hcontext := S3PolicyRequest.context_of_evaluationRequest hrequest
  have haccount := validAccount_of_wellFormed
    (S3PolicyRequest.evaluationRequest_eq_some_iff.1 hrequest).1
  have hcases := owner_or_listed_of_matches
    (not_public_statement hprivate hmem heffect) hmatches (hcontext ▸ harn) (hcontext ▸ haccount)
  rw [hcontext] at hcases
  have hlisted : request.principalAccount = some owningAccountId ∨
      ∃ address, request.sourceIp = some address ∧
        ∃ statement ∈ policy.statements, statement.ListsAddress address :=
    hcases.imp_right fun ⟨address, haddress, hlists⟩ => ⟨address, haddress, statement, hmem, hlists⟩
  refine ⟨hlisted, fun _ hanonymous => hlisted.resolve_left ?_⟩
  rw [hanonymous]
  simp

/-- Anybody may read, from one address. -/
def hostReads : S3BucketPolicy :=
  { version := "2012-10-17".toList, id := none, targetBucket := "photos-prod".toList
    statements :=
      [{ sid := none, effect := .allow, principal := .principal .any
         actions := .action ["s3:GetObject".toList]
         resources := .resource ["arn:aws:s3:::photos-prod/*".toList]
         conditions :=
           [{ operator := .ipAddress, key := .sourceIp
              values := [.ip { network := .v4 3405803786#32, prefixLen := 32 }] }] }] }

/-- A request without a caller, from that address. -/
def hostRequest : S3PolicyRequest :=
  { action := .getObject, bucket := "photos-prod".toList, key := some "a".toList
    versionId := none, principalArn := none, principalAccount := none, userid := none
    secureTransport := true, sourceIp := some (.v4 3405803786#32)
    query := { keyPrefix := none, delimiter := none, maxKeys := none } }

theorem policyStatus_sound_hostReads :
    ∃ address, hostRequest.sourceIp = some address ∧
      ∃ statement ∈ hostReads.statements, statement.ListsAddress address :=
  (policyStatus_sound hostReads "123456789012".toList (by decide +kernel) hostRequest
    (fun _ h => nomatch h) (by decide +kernel)).2 rfl rfl

end MediaHub.Policy
